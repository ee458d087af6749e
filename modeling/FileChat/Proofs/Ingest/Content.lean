import FileChat.Proofs.Ingest.Loading

/-!
# What a load makes of a content

The bytes that are no text are dropped from a content, but by way of replacement characters: each
gap gets one, and then all of them are taken out. Those that the text has of its own go with them.
So a file within the limit comes back as its text without replacement characters, and as its text
exactly if it has none.
-/
namespace FileChat.Load

open FileSystem (bytes)
open Utf8 (Reads replacement)

theorem withoutReplacements_eq_iff (s : String) :
    withoutReplacements s.toList = s ↔ replacement ∉ s.toList := by
  rw [withoutReplacements, ← String.toList_inj, String.toList_ofList, List.filter_eq_self]
  simp only [decide_eq_true_eq]
  exact ⟨fun h hmem => h _ hmem rfl, fun h c hc heq => h (heq ▸ hc)⟩

/-- Whether a load takes a file of that content and shows it under that path: it is what the path
leads to, or one of the first files that the policy takes below it. -/
def Shows (fs : FileSystem) (home : String) (policy : IngestPolicy) (path : String)
    (content : Bytes) (shown : String) : Prop :=
  (fs.get? (bytes (target home path)) = some (.file content) ∧
    policy.accepts (target home path).toList = true ∧ shown = target home path) ∨
  ∃ t files f, fs.get? (bytes (target home path)) = some t ∧ t.isDir = true ∧ t.WellFormed ∧
    Lists policy t files ∧ f ∈ files.take policy.maxFiles ∧ f.content = content ∧
    shown = String.ofList (Utf8.decodeReplacing (f.path (bytes (target home path))))

/-- What a load shows is an entry of it. -/
theorem mem_load_of_shows {fs : FileSystem} {home : String} {policy : IngestPolicy} {path : String}
    {content : Bytes} {shown : String} (h : Shows fs home policy path content shown) :
    ∃ files, load fs home policy path = .ok files ∧ ⟨shown, outcome policy content⟩ ∈ files := by
  obtain ⟨hget, haccepts, rfl⟩ | ⟨t, files, f, hget, hdir, hwf, hlists, hf, rfl, rfl⟩ := h
  · refine ⟨[⟨target home path, outcome policy content⟩], ?_, List.mem_singleton_self _⟩
    rw [load_file hget, if_pos haccepts]
  · refine ⟨_, load_dir hget hdir, ?_⟩
    rw [ofDirectory_eq, hlists.unique (lists_listing hwf)]
    exact List.mem_map.mpr ⟨f, hf, rfl⟩

/-- Among some bytes exactly one text is read. A load of a file within the limit gives it without
its replacement characters, so it changes no text but those that have some. -/
theorem load_drops_replacements (fs : FileSystem) (home : String) (policy : IngestPolicy)
    (path : String) :
    (∀ content, ∃ text, (Reads content text ∧ ∀ other, Reads content other → other = text) ∧
      decodeDropping content = withoutReplacements text ∧
      ∀ shown, Shows fs home policy path content shown → content.length ≤ policy.maxFileSize →
        ∃ files, load fs home policy path = .ok files ∧
          ⟨shown, .ok (withoutReplacements text)⟩ ∈ files) ∧
    ∀ s : String, Reads (bytes s) s.toList ∧
      (decodeDropping (bytes s) = s ↔ replacement ∉ s.toList) := by
  constructor
  · intro content
    obtain ⟨text, htext⟩ := Utf8.exists_reads content
    refine ⟨text, ⟨htext, fun other hother => htext.unique hother⟩,
      decodeDropping_of_reads htext, fun shown hshown hsize => ?_⟩
    rw [becomes_iff.mp (.text hsize htext)]
    exact mem_load_of_shows hshown
  · intro s
    have hreads : Reads (bytes s) s.toList := Utf8.reads_encode s.toList
    rw [decodeDropping_of_reads hreads]
    exact ⟨hreads, withoutReplacements_eq_iff s⟩

/-- A letter, a replacement character, a stray byte and a letter. -/
theorem load_drops_replacements_stray :
    let fs : FileSystem := ⟨.dir [(bytes "a.md", .file [97, 0xEF, 0xBF, 0xBD, 0xFF, 98])], []⟩
    let policy : IngestPolicy := ⟨[['.', 'm', 'd']], [], [], 6, 1⟩
    ∃ text, Reads [97, 0xEF, 0xBF, 0xBD, 0xFF, 98] text ∧
      Shows fs "/" policy "a.md" [97, 0xEF, 0xBF, 0xBD, 0xFF, 98] "a.md" ∧
      ∃ files, load fs "/" policy "a.md" = .ok files ∧
        ⟨"a.md", .ok (withoutReplacements text)⟩ ∈ files := by
  intro fs policy
  obtain ⟨text, ⟨hreads, -⟩, -, hload⟩ :=
    (load_drops_replacements fs "/" policy "a.md").1 [97, 0xEF, 0xBF, 0xBD, 0xFF, 98]
  have htarget : target "/" "a.md" = "a.md" := by decide +kernel
  have hnames : (bytes "a.md").splitOn FileSystem.slash = [bytes "a.md"] := by decide +kernel
  have hget : fs.get? (bytes "a.md") = some (.file [97, 0xEF, 0xBF, 0xBD, 0xFF, 98]) := by
    simp only [FileSystem.get?, FileSystem.locate, hnames, FileSystem.follow]
    rfl
  have hshows : Shows fs "/" policy "a.md" [97, 0xEF, 0xBF, 0xBD, 0xFF, 98] "a.md" := by
    left
    rw [htarget]
    exact ⟨hget, by decide +kernel, rfl⟩
  exact ⟨text, hreads, hshows, hload "a.md" hshows (by decide)⟩

/-- A text with a replacement character of its own, which is well formed, is not loaded as it is. -/
theorem replacement_character_lost :
    Reads (bytes "a\ufffdb") "a\ufffdb".toList ∧ decodeDropping (bytes "a\ufffdb") = "ab" := by
  refine ⟨Utf8.reads_encode _, ?_⟩
  decide +kernel

end FileChat.Load
