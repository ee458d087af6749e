import FileChat.Ingest.Load
import FileChat.Proofs.Bytes.WellFormed
import FileChat.Proofs.Entries
import Mathlib.Data.List.Forall2

/-!
# What a load takes

A load of a directory takes the regular files below it that the policy accepts and that no directory
passed over leads to. They come in the order of their places, each once, and the load stops at the
policy's limit, whatever became of the files before. `Lists` says this of a list of files without
walking a tree, and at most one list meets it. `Becomes` says what becomes of a content, without a
decoder: a failure, if the content is too large, or else the text that is read among its bytes.

No directory holds a name twice; no more is asked of a tree. Links and devices are no files here, so
what a link leads to is taken only at its own place.
-/
namespace FileChat

/-- A tree in which no directory holds a name twice. -/
inductive FileTree.WellFormed : FileTree → Prop
  | file (content : Bytes) : WellFormed (.file content)
  | link (target : Bytes) : WellFormed (.link target)
  | device : WellFormed .device
  | dir {entries : List (FileName × FileTree)} :
      (entries.map (·.1)).Nodup → (∀ e ∈ entries, e.2.WellFormed) → WellFormed (.dir entries)

namespace FileTree

theorem at?_eq_some_iff_of_not_isDir {t t' : FileTree} (h : t.isDir = false)
    {place : List FileName} : t.at? place = some t' ↔ place = [] ∧ t = t' := by
  cases place with
  | nil => simp [at?]
  | cons name place =>
    have hnone : t.at? (name :: place) = none := by
      cases t with
      | dir entries => cases h
      | file => rfl
      | link => rfl
      | device => rfl
    simp [hnone]

/-- What a directory has at a place is what the tree of the first name has at the rest of it. -/
theorem at?_dir_cons {entries : List (FileName × FileTree)} (h : (entries.map (·.1)).Nodup)
    {name : FileName} {place : List FileName} {t : FileTree} :
    (FileTree.dir entries).at? (name :: place) = some t ↔
      ∃ sub, (name, sub) ∈ entries ∧ sub.at? place = some t := by
  have hchild (sub : FileTree) :
      (FileTree.dir entries).child? name = some sub ↔ (name, sub) ∈ entries :=
    Entries.lookup_eq_some_iff h
  rw [at?, Option.bind_eq_some_iff]
  simp only [hchild]

end FileTree

namespace Load

/-- A regular file below a root: the names that lead to it, and its content. -/
structure Found where
  place : List FileName
  content : Bytes
  deriving DecidableEq

namespace Found

/-- The path of a file under the path of the root. -/
def path (root : Bytes) (f : Found) : Bytes := f.place.foldl FileSystem.joinPath root

/-- The file as it is found from the directory above. -/
def under (name : FileName) (f : Found) : Found := ⟨name :: f.place, f.content⟩

/-- The file as it is met on a walk from a root of that name. -/
def met (root : Bytes) (name : FileName) (f : Found) : Met :=
  ⟨f.path root, f.place.getLast?.getD name, f.content⟩

theorem met_under (root : Bytes) (outer name : FileName) (f : Found) :
    f.met (FileSystem.joinPath root name) name = (f.under name).met root outer := by
  simp only [met, under, path, List.foldl_cons, List.getLast?_cons]
  rfl

end Found

/-- Whether none of the directories that lead to a place is passed over. -/
def Entered (policy : IngestPolicy) (place : List FileName) : Prop :=
  ∀ name ∈ place.dropLast, policy.excludesDir (Utf8.decodeReplacing name) = false

/-- Whether a policy takes the file at a place below the root: no directory between them is passed
over, and the file's own name, which has to be text, is accepted. -/
structure Takes (policy : IngestPolicy) (place : List FileName) : Prop where
  entered : Entered policy place
  accepted : ∃ name, place.getLast?.bind Utf8.decode? = some name ∧ policy.acceptsName name = true

/-- The files of a tree that a policy takes, in the order of their places: where two places part,
the lesser name comes first. -/
structure Lists (policy : IngestPolicy) (t : FileTree) (files : List Found) : Prop where
  ordered : files.Pairwise (·.place < ·.place)
  mem_iff : ∀ f, f ∈ files ↔ t.at? f.place = some (.file f.content) ∧ Takes policy f.place

variable {policy : IngestPolicy}

theorem Lists.unique {t : FileTree} {files others : List Found} (h : Lists policy t files)
    (h' : Lists policy t others) : others = files := by
  have hirrefl : Std.Irrefl fun f g : Found => f.place < g.place := ⟨fun _ => Std.lt_irrefl⟩
  have hantisymm : Std.Antisymm fun f g : Found => f.place < g.place :=
    ⟨fun f g hfg hgf => absurd (Std.lt_trans hfg hgf) Std.lt_irrefl⟩
  exact h'.ordered.eq_of_mem_iff h.ordered fun f => (h'.mem_iff f).trans (h.mem_iff f).symm

/-! ## Contents -/

section Contents

open Utf8 (Reads replacement)

/-- A text without its replacement characters. -/
def withoutReplacements (text : List Char) : String := String.ofList (text.filter (· ≠ replacement))

/-- With the replacement characters go the gaps that they stand in. -/
theorem filter_map_getD (items : List (Option Char)) :
    (items.map (·.getD replacement)).filter (· ≠ replacement) =
      items.reduceOption.filter (· ≠ replacement) := by
  induction items with
  | nil => rfl
  | cons item items ih =>
    cases item with
    | none =>
      rw [List.reduceOption_cons_of_none, List.map_cons, Option.getD_none,
        List.filter_cons_of_neg (by simp), ih]
    | some c =>
      rw [List.reduceOption_cons_of_some, List.map_cons, Option.getD_some, List.filter_cons,
        List.filter_cons, ih]

theorem decodeDropping_of_reads {content : Bytes} {text : List Char} (h : Reads content text) :
    decodeDropping content = withoutReplacements text := by
  rw [decodeDropping, Utf8.decodeReplacing, filter_map_getD, h.reduceOption_decode,
    withoutReplacements]

/-- What becomes of a content: a failure that tells the limit, or the text among the bytes. -/
inductive Becomes (policy : IngestPolicy) (content : Bytes) : Outcome → Prop
  | tooLarge : policy.maxFileSize < content.length →
      Becomes policy content
        (.error ("too large (>" ++ toString (policy.maxFileSize / (1024 * 1024)) ++ " MB)"))
  | text {text : List Char} : content.length ≤ policy.maxFileSize → Reads content text →
      Becomes policy content (.ok (withoutReplacements text))

theorem becomes_iff {content : Bytes} {o : Outcome} :
    Becomes policy content o ↔ o = outcome policy content := by
  constructor
  · intro h
    cases h with
    | tooLarge hsize =>
      rw [outcome, if_pos hsize]
      rfl
    | text hsize hreads =>
      rw [outcome, if_neg (Nat.not_lt.mpr hsize), decodeDropping_of_reads hreads]
  · intro h
    subst h
    rw [outcome]
    split
    · next hsize => exact .tooLarge hsize
    · next hsize =>
      obtain ⟨text, htext⟩ := Utf8.exists_reads content
      rw [decodeDropping_of_reads htext]
      exact .text (Nat.not_lt.mp hsize) htext

/-- The entry of a load that a file below the root makes. -/
structure Gives (policy : IngestPolicy) (root : Bytes) (f : Found) (e : LoadedFile) : Prop where
  path : e.path = String.ofList (Utf8.decodeReplacing (f.path root))
  outcome : Becomes policy f.content e.outcome

theorem gives_iff {root : Bytes} {f : Found} {e : LoadedFile} : Gives policy root f e ↔
    e = ⟨String.ofList (Utf8.decodeReplacing (f.path root)), outcome policy f.content⟩ := by
  constructor
  · intro h
    obtain ⟨path, found⟩ := e
    exact congrArg₂ LoadedFile.mk h.path (becomes_iff.mp h.outcome)
  · intro h
    subst h
    exact ⟨rfl, becomes_iff.mpr rfl⟩

end Contents

/-! ## The walk by places -/

mutual
/-- The regular files that a walk meets, by their places instead of their paths. -/
def foundUnder (policy : IngestPolicy) : FileTree → List Found
  | .file content => [⟨[], content⟩]
  | .dir entries =>
    ((foundInEntries policy entries).mergeSort fun a b => !decide (b.1 < a.1)).flatMap (·.2)
  | .link _ | .device => []
/-- The files of each entry of a directory. -/
def foundInEntries (policy : IngestPolicy) :
    List (FileName × FileTree) → List (FileName × List Found)
  | [] => []
  | (name, t) :: rest =>
    (name, if isExcluded policy name t then [] else (foundUnder policy t).map (.under name)) ::
      foundInEntries policy rest
end

mutual
theorem filesUnder_eq (path : Bytes) (name : FileName) (t : FileTree) :
    filesUnder policy path name t = (foundUnder policy t).map (Found.met path name) := by
  cases t with
  | file => rfl
  | link => rfl
  | device => rfl
  | dir entries =>
    rw [filesUnder, foundUnder, filesOfEntries_eq path name entries,
      ← List.map_mergeSort (r := fun a b => !decide (b.1 < a.1))]
    · simp [List.flatMap_map, List.map_flatMap]
    · simp
theorem filesOfEntries_eq (path : Bytes) (name : FileName) (entries : List (FileName × FileTree)) :
    filesOfEntries policy path entries =
      (foundInEntries policy entries).map fun e => (e.1, e.2.map (Found.met path name)) := by
  cases entries with
  | nil => rfl
  | cons e rest =>
    obtain ⟨n, t⟩ := e
    rw [filesOfEntries, foundInEntries, filesOfEntries_eq path name rest, List.map_cons]
    congr 2
    split
    · rfl
    · rw [filesUnder_eq _ n t, List.map_map]
      exact List.map_congr_left fun f _ => Found.met_under path name n f
end

/-- The files that one entry of a directory adds. -/
def foundIn (policy : IngestPolicy) (e : FileName × FileTree) : List Found :=
  if isExcluded policy e.1 e.2 then [] else (foundUnder policy e.2).map (.under e.1)

theorem foundInEntries_eq (entries : List (FileName × FileTree)) :
    foundInEntries policy entries = entries.map fun e => (e.1, foundIn policy e) := by
  induction entries with
  | nil => rfl
  | cons e rest ih => rw [foundInEntries, ih, List.map_cons, foundIn]

/-- The files of a directory, by what is found under its names in ascending order. -/
theorem foundUnder_dir {entries : List (FileName × FileTree)}
    (sorted : List (FileName × List Found)) (h : (foundInEntries policy entries).Perm sorted)
    (hsorted : sorted.Pairwise (·.1 < ·.1)) :
    foundUnder policy (.dir entries) = sorted.flatMap (·.2) := by
  rw [foundUnder, Entries.mergeSort_eq_of_ascending (·.1) h hsorted]

theorem mem_foundIn {e : FileName × FileTree} {f : Found} :
    f ∈ foundIn policy e ↔
      isExcluded policy e.1 e.2 = false ∧ ∃ g ∈ foundUnder policy e.2, g.under e.1 = f := by
  rw [foundIn]
  split
  · next h => simp [h]
  · next h => simp [h]

theorem mem_foundUnder_dir {entries : List (FileName × FileTree)} {f : Found} :
    f ∈ foundUnder policy (.dir entries) ↔ ∃ e ∈ entries, f ∈ foundIn policy e := by
  rw [foundUnder, List.mem_flatMap, foundInEntries_eq]
  simp only [List.mem_mergeSort, List.mem_map]
  constructor
  · rintro ⟨-, ⟨e, he, rfl⟩, hf⟩
    exact ⟨e, he, hf⟩
  · rintro ⟨e, he, hf⟩
    exact ⟨_, ⟨e, he, rfl⟩, hf⟩

/-- The name of a file is no name of a directory; any other name on the way to it is one. -/
theorem entered_cons {name : FileName} {place : List FileName} {t : FileTree} {content : Bytes}
    (h : t.at? place = some (.file content)) :
    Entered policy (name :: place) ↔ isExcluded policy name t = false ∧ Entered policy place := by
  cases place with
  | nil =>
    obtain rfl : t = .file content := Option.some.inj h
    simp [Entered, isExcluded, FileTree.isDir]
  | cons inner place =>
    have hdir : t.isDir = true := by
      by_contra hnot
      cases ((FileTree.at?_eq_some_iff_of_not_isDir (by simpa using hnot)).mp h).1
    simp [Entered, isExcluded, hdir]

/-- A walk meets exactly the files to which no directory passed over leads. -/
theorem mem_foundUnder {t : FileTree} (h : t.WellFormed) {f : Found} :
    f ∈ foundUnder policy t ↔ t.at? f.place = some (.file f.content) ∧ Entered policy f.place := by
  obtain ⟨place, content⟩ := f
  induction h generalizing place with
  | file content' =>
    rw [FileTree.at?_eq_some_iff_of_not_isDir rfl, foundUnder, List.mem_singleton]
    constructor
    · rintro ⟨⟩
      exact ⟨⟨rfl, rfl⟩, by simp [Entered]⟩
    · rintro ⟨⟨rfl, ⟨⟩⟩, -⟩
      rfl
  | link target =>
    simp [foundUnder, FileTree.at?_eq_some_iff_of_not_isDir (t := .link target) rfl]
  | device => simp [foundUnder, FileTree.at?_eq_some_iff_of_not_isDir (t := .device) rfl]
  | @dir entries hdistinct _ ih =>
    rw [mem_foundUnder_dir]
    simp only [mem_foundIn]
    constructor
    · rintro ⟨⟨name, t⟩, ht, hnot, ⟨place, content⟩, hg, hf⟩
      obtain ⟨rfl, rfl⟩ := Found.mk.inj hf
      obtain ⟨hplace, hentered⟩ := (ih _ ht place).mp hg
      exact ⟨(FileTree.at?_dir_cons hdistinct).mpr ⟨t, ht, hplace⟩,
        (entered_cons hplace).mpr ⟨hnot, hentered⟩⟩
    · rintro ⟨hplace, hentered⟩
      cases place with
      | nil => cases hplace
      | cons name place =>
        obtain ⟨t, ht, hrest⟩ := (FileTree.at?_dir_cons hdistinct).mp hplace
        obtain ⟨hnot, hentered⟩ := (entered_cons hrest).mp hentered
        exact ⟨(name, t), ht, hnot, ⟨place, content⟩, (ih _ ht place).mpr ⟨hrest, hentered⟩, rfl⟩

/-- A walk that goes through each directory by its names goes through the whole tree by places. -/
theorem pairwise_foundUnder {t : FileTree} (h : t.WellFormed) :
    (foundUnder policy t).Pairwise (·.place < ·.place) := by
  induction h with
  | file content => exact List.pairwise_singleton _ _
  | link target => exact .nil
  | device => exact .nil
  | @dir entries hdistinct _ ih =>
    have hnames : ((foundInEntries policy entries).map (·.1)).Nodup := by
      rwa [foundInEntries_eq, List.map_map]
    have hgroup {group : FileName × List Found} (h : group ∈ foundInEntries policy entries) :
        ∃ e ∈ entries, (e.1, foundIn policy e) = group := by
      rwa [foundInEntries_eq, List.mem_map] at h
    rw [foundUnder, List.pairwise_flatMap]
    constructor
    · -- below one name the places differ after it
      intro group hmem
      obtain ⟨e, he, rfl⟩ := hgroup (List.mem_mergeSort.mp hmem)
      rw [foundIn]
      split
      · exact .nil
      · refine List.Pairwise.map _ (fun f g hlt => ?_) (ih _ he)
        exact List.cons_lt_cons_iff.mpr (.inr ⟨rfl, hlt⟩)
    · -- below two names they differ there
      refine (Entries.pairwise_mergeSort _ _ hnames).imp_of_mem ?_
      intro group other hmem hmem' hlt f hf g hg
      obtain ⟨e, -, rfl⟩ := hgroup (List.mem_mergeSort.mp hmem)
      obtain ⟨e', -, rfl⟩ := hgroup (List.mem_mergeSort.mp hmem')
      obtain ⟨-, f, -, rfl⟩ := mem_foundIn.mp hf
      obtain ⟨-, g, -, rfl⟩ := mem_foundIn.mp hg
      exact List.cons_lt_cons_iff.mpr (.inl hlt)

/-! ## What is taken -/

/-- All files of a tree that a load takes, its limit apart. -/
def listing (policy : IngestPolicy) (t : FileTree) : List Found :=
  (foundUnder policy t).filter fun f => acceptsMet policy (f.met [] [])

theorem acceptsMet_iff (root : Bytes) (f : Found) :
    acceptsMet policy (f.met root []) = true ↔
      ∃ name, f.place.getLast?.bind Utf8.decode? = some name ∧ policy.acceptsName name = true := by
  rw [acceptsMet, Found.met]
  cases f.place.getLast? with
  | none =>
    have hempty : policy.acceptsName [] = false := by
      simp [IngestPolicy.acceptsName, Path.extension?]
    have hdecode : Utf8.decode? [] = some [] := rfl
    simp [hempty, hdecode]
  | some name => cases hname : Utf8.decode? name <;> simp [hname]

theorem lists_listing {t : FileTree} (h : t.WellFormed) : Lists policy t (listing policy t) := by
  refine ⟨(pairwise_foundUnder h).filter _, fun f => ?_⟩
  rw [listing, List.mem_filter, mem_foundUnder h, acceptsMet_iff]
  exact ⟨fun ⟨⟨hplace, hentered⟩, haccepted⟩ => ⟨hplace, hentered, haccepted⟩,
    fun ⟨hplace, htakes⟩ => ⟨⟨hplace, htakes.entered⟩, htakes.accepted⟩⟩

/-- The limit is a limit of entries, and what becomes of a file is decided by its content alone. -/
theorem ofDirectory_eq (root : Bytes) (t : FileTree) :
    ofDirectory policy root t = ((listing policy t).take policy.maxFiles).map fun f =>
      ⟨String.ofList (Utf8.decodeReplacing (f.path root)), outcome policy f.content⟩ := by
  have hfilter : (fun f : Found => acceptsMet policy (f.met root [])) =
      fun f => acceptsMet policy (f.met [] []) := by
    funext f
    rw [Bool.eq_iff_iff, acceptsMet_iff, acceptsMet_iff]
  rw [ofDirectory, filesUnder_eq, List.filter_map, ← List.map_take, List.map_map, listing,
    ← hfilter]
  rfl

open FileSystem (bytes)

section Roots

variable {fs : FileSystem} {home path : String}

theorem load_file {content : Bytes}
    (h : fs.get? (bytes (target home path)) = some (.file content)) :
    load fs home policy path =
      .ok (if policy.accepts (target home path).toList then
        [⟨target home path, outcome policy content⟩] else []) := by
  rw [load, h]
  rfl

theorem load_dir {t : FileTree} (h : fs.get? (bytes (target home path)) = some t)
    (hdir : t.isDir = true) :
    load fs home policy path = .ok (ofDirectory policy (bytes (target home path)) t) := by
  rw [load, h]
  cases t with
  | dir entries => rfl
  | file => cases hdir
  | link => cases hdir
  | device => cases hdir

end Roots

/-- A load of a path that leads nowhere fails, a load of a file takes it if it is accepted, and a
load of a directory takes the first of the files that the policy takes below it. What it takes is
an entry with what becomes of the content. -/
theorem load_lists_first (fs : FileSystem) (home : String) (policy : IngestPolicy) (path : String) :
    (fs.get? (bytes (target home path)) = none →
      load fs home policy path = .error (.notFound (target home path))) ∧
    (∀ content, fs.get? (bytes (target home path)) = some (.file content) →
      (policy.accepts (target home path).toList = true →
        ∃ outcome, Becomes policy content outcome ∧
          load fs home policy path = .ok [⟨target home path, outcome⟩]) ∧
      (policy.accepts (target home path).toList = false → load fs home policy path = .ok [])) ∧
    ∀ t, fs.get? (bytes (target home path)) = some t → t.isDir = true → t.WellFormed →
      ∃ files entries, Lists policy t files ∧ (∀ others, Lists policy t others → others = files) ∧
        load fs home policy path = .ok entries ∧
        List.Forall₂ (Gives policy (bytes (target home path))) (files.take policy.maxFiles)
          entries := by
  refine ⟨fun h => ?_, fun content h => ⟨fun haccepts => ?_, fun hrejects => ?_⟩,
    fun t h hdir hwf => ?_⟩
  · rw [load, h]
    rfl
  · refine ⟨outcome policy content, becomes_iff.mpr rfl, ?_⟩
    rw [load_file h, if_pos haccepts]
  · rw [load_file h, if_neg (by simp [hrejects])]
  · have hlists : Lists policy t (listing policy t) := lists_listing hwf
    refine ⟨listing policy t, ofDirectory policy (bytes (target home path)) t, hlists,
      fun others => hlists.unique, load_dir h hdir, ?_⟩
    rw [ofDirectory_eq, List.forall₂_map_right_iff]
    exact List.forall₂_same.mpr fun f _ => gives_iff.mpr rfl

/-- Three files that are taken, the first of them too large and the second one no text, a file of
another kind, one whose directory is passed over, and a link. -/
def sampleTree : FileTree :=
  .dir [(bytes "src", .dir [(bytes "b.md", .file [0xFF, 98])]), (bytes "z.md", .file []),
    (bytes "l.md", .link (bytes "a.md")), (bytes ".git", .dir [(bytes "c.md", .file [])]),
    (bytes "n.txt", .file []), (bytes "a.md", .file (bytes "large"))]

/-- The file that is too large counts, so the limit of two leaves out the last one; the stray byte
of the other is dropped, also where the load is of that file alone. -/
theorem load_lists_first_sample :
    let fs : FileSystem := ⟨.dir [(bytes "p", sampleTree)], []⟩
    let policy : IngestPolicy := ⟨[['.', 'm', 'd']], [['.', 'g', 'i', 't']], [], 3, 2⟩
    fs.get? (bytes (target "/" " p ")) = some sampleTree ∧ sampleTree.isDir = true ∧
      sampleTree.WellFormed ∧
      Lists policy sampleTree
        [⟨[bytes "a.md"], bytes "large"⟩, ⟨[bytes "src", bytes "b.md"], [0xFF, 98]⟩,
          ⟨[bytes "z.md"], []⟩] ∧
      load fs "/" policy " p " =
        .ok [⟨"p/a.md", .error "too large (>0 MB)"⟩, ⟨"p/src/b.md", .ok "b"⟩] ∧
      load fs "/" policy "p/src/b.md" = .ok [⟨"p/src/b.md", .ok "b"⟩] := by
  intro fs policy
  have hpath : bytes (target "/" " p ") = bytes "p" := by decide +kernel
  have hnames : (bytes "p").splitOn FileSystem.slash = [bytes "p"] := by decide +kernel
  have hget : fs.get? (bytes (target "/" " p ")) = some sampleTree := by
    simp only [hpath, FileSystem.get?, FileSystem.locate, hnames, FileSystem.follow]
    rfl
  have hwf : sampleTree.WellFormed := by
    refine .dir (by decide) ?_
    simp only [List.forall_mem_cons, List.not_mem_nil, false_implies, implies_true, and_true]
    refine ⟨.dir (by decide) ?_, .file _, .link _, .dir (by decide) ?_, .file _, .file _⟩
    · simpa using .file _
    · simpa using .file _
  obtain ⟨files, entries, hlists, hunique, hload, hentries⟩ :=
    (load_lists_first fs "/" policy " p ").2.2 sampleTree hget rfl hwf
  have hfound : foundUnder policy sampleTree =
      [⟨[bytes "a.md"], bytes "large"⟩, ⟨[bytes "n.txt"], []⟩,
        ⟨[bytes "src", bytes "b.md"], [0xFF, 98]⟩, ⟨[bytes "z.md"], []⟩] :=
    foundUnder_dir
      [(bytes ".git", []), (bytes "a.md", [⟨[bytes "a.md"], bytes "large"⟩]), (bytes "l.md", []),
        (bytes "n.txt", [⟨[bytes "n.txt"], []⟩]),
        (bytes "src", [⟨[bytes "src", bytes "b.md"], [0xFF, 98]⟩]),
        (bytes "z.md", [⟨[bytes "z.md"], []⟩])]
      (by decide +kernel) (by decide +kernel)
  have hlisting : listing policy sampleTree =
      [⟨[bytes "a.md"], bytes "large"⟩, ⟨[bytes "src", bytes "b.md"], [0xFF, 98]⟩,
        ⟨[bytes "z.md"], []⟩] := by
    rw [listing, hfound]
    decide +kernel
  obtain rfl := hunique _ (hlisting ▸ lists_listing hwf)
  rw [hpath] at hentries
  obtain ⟨large, others, hlarge, hothers, rfl⟩ := List.forall₂_cons_left_iff.mp hentries
  obtain ⟨stray, none, hstray, hnone, rfl⟩ := List.forall₂_cons_left_iff.mp hothers
  obtain rfl : none = [] := List.forall₂_nil_left_iff.mp hnone
  have hfirst : large = ⟨"p/a.md", .error "too large (>0 MB)"⟩ :=
    (gives_iff.mp hlarge).trans (congrArg₂ _ (by decide +kernel) (by decide +kernel))
  have hsecond : stray = ⟨"p/src/b.md", .ok "b"⟩ :=
    (gives_iff.mp hstray).trans (congrArg₂ _ (by decide +kernel) (by decide +kernel))
  have hfile : target "/" "p/src/b.md" = "p/src/b.md" := by decide +kernel
  have hplace : (bytes "p/src/b.md").splitOn FileSystem.slash =
      [bytes "p", bytes "src", bytes "b.md"] := by decide +kernel
  have hgetFile : fs.get? (bytes (target "/" "p/src/b.md")) = some (.file [0xFF, 98]) := by
    simp only [hfile, FileSystem.get?, FileSystem.locate, hplace, FileSystem.follow]
    rfl
  obtain ⟨outcome, hbecomes, hloadFile⟩ :=
    ((load_lists_first fs "/" policy "p/src/b.md").2.1 _ hgetFile).1 (by decide +kernel)
  have houtcome : outcome = .ok "b" := (becomes_iff.mp hbecomes).trans (by decide +kernel)
  rw [houtcome, hfile] at hloadFile
  exact ⟨hget, rfl, hwf, hlists, hload.trans (by rw [hfirst, hsecond]), hloadFile⟩

end Load
end FileChat
