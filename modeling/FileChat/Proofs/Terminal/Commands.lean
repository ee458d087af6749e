import FileChat.Proofs.Terminal.Turn
import FileChat.Proofs.Text.Ascii

/-!
# The grammar of commands

What is read on a line is decided by its first word, and by what follows the white space behind it.
The name of a command may be spelled in ASCII letters of either case. Although the reader lowers
more than ASCII, no other character is taken for a letter of a name: the names have no `k`, and the
`i` of a capital I with a dot keeps its dot.
-/
namespace FileChat.Command

open Text

/-- A command's name, what the command is alone, and what it is with an argument. -/
structure Form where
  name : String
  alone : Command
  given : String → Command

def forms : List Form :=
  [⟨"/load", usage "/load <path>", load⟩,
    ⟨"/focus", usage "/focus <name>", focus⟩,
    ⟨"/search", usage "/search <text>", search⟩,
    ⟨"/mode", usage "/mode <smart|full|summary>", mode⟩,
    ⟨"/model", model none, fun wanted => model (some wanted)⟩,
    ⟨"/unfocus", unfocus, fun _ => unfocus⟩,
    ⟨"/files", files, fun _ => files⟩,
    ⟨"/save", save, fun _ => save⟩,
    ⟨"/clear", clear, fun _ => clear⟩,
    ⟨"/help", help, fun _ => help⟩]

/-- Whether a command is this one, with whatever argument or without. -/
def Form.Makes (f : Form) (c : Command) : Prop := c = f.alone ∨ ∃ argument, c = f.given argument

/-- Whether a text is a word, but for the case of its ASCII letters. -/
def Spells (word : String) (text : List Char) : Prop :=
  text.map Char.toLower = word.toList.map Char.toLower

instance (word : String) (text : List Char) : Decidable (Spells word text) :=
  inferInstanceAs (Decidable (_ = _))

def firstWord (line : String) : List Char := (trim line.toList).takeWhile fun c => !isBlank c

/-- What it is to read lines by the grammar of commands. -/
structure Grammar (read : String → Option Command) : Prop where
  trimmed : ∀ line, read line = read (String.ofList (trim line.toList))
  padded : ∀ front text back, (∀ c ∈ front, isBlank c = true) → (∀ c ∈ back, isBlank c = true) →
    read (String.ofList (front ++ text ++ back)) = read (String.ofList text)
  question : ∀ line, read line = none ↔ (trim line.toList).head? ≠ some '/' ∧
    ¬ Spells "exit" (trim line.toList) ∧ ¬ Spells "quit" (trim line.toList)
  leaving : ∀ line, read line = some exit ↔
    Spells "exit" (trim line.toList) ∨ Spells "quit" (trim line.toList)
  known : ∀ form ∈ forms, ∀ line,
    (∃ c, read line = some c ∧ form.Makes c) ↔ Spells form.name (firstWord line)
  unknown : ∀ line name, read line = some (unknown name) ↔ (firstWord line).head? = some '/' ∧
    (∀ form ∈ forms, ¬ Spells form.name (firstWord line)) ∧
    name = String.ofList (lower (firstWord line))
  alone : ∀ form ∈ forms, ∀ word, Spells form.name word →
    read (String.ofList word) = some form.alone
  given : ∀ form ∈ forms, ∀ word blanks argument, Spells form.name word →
    blanks ≠ [] → (∀ c ∈ blanks, isBlank c = true) → argument ≠ [] → Bare argument →
    read (String.ofList (word ++ blanks ++ argument)) = some (form.given (String.ofList argument))

/-! ## Names -/

variable {word : String} {text blanks argument : List Char} {form : Form} {line : String}

/-- The name under which a command is called; of a usage, its first word. -/
def calledBy : Command → Option String
  | load _ => some "/load"
  | focus _ => some "/focus"
  | search _ => some "/search"
  | mode _ => some "/mode"
  | model _ => some "/model"
  | unfocus => some "/unfocus"
  | files => some "/files"
  | save => some "/save"
  | clear => some "/clear"
  | help => some "/help"
  | usage text => some (String.ofList (text.toList.takeWhile fun c => !isBlank c))
  | exit | unknown _ => none

theorem calledBy_alone : ∀ form ∈ forms, calledBy form.alone = some form.name := by
  simp only [forms, List.forall_mem_cons]
  decide

theorem calledBy_given : ∀ form ∈ forms, ∀ argument,
    calledBy (form.given argument) = some form.name := by
  simp only [forms, List.forall_mem_cons, calledBy, implies_true, List.not_mem_nil, false_imp_iff,
    and_self]

theorem calledBy_of_makes {c : Command} (hform : form ∈ forms) (h : form.Makes c) :
    calledBy c = some form.name := by
  obtain rfl | ⟨argument, rfl⟩ := h
  · exact calledBy_alone form hform
  · exact calledBy_given form hform argument

theorem not_makes_of_calledBy {c : Command} (hform : form ∈ forms) (h : calledBy c = none) :
    ¬ form.Makes c := by
  intro hmakes
  rw [calledBy_of_makes hform hmakes] at h
  cases h

theorem ofName_none : ∀ form ∈ forms, ofName form.name none = form.alone := by
  simp only [forms, List.forall_mem_cons]
  decide

theorem ofName_some : ∀ form ∈ forms, ∀ argument,
    ofName form.name (some argument) = form.given argument := by
  simp only [forms, List.forall_mem_cons]
  simp [ofName, withArgument]

theorem ofName_of_not_form {name : String} (h : ∀ form ∈ forms, name ≠ form.name)
    (argument : Option String) : ofName name argument = .unknown name := by
  simp only [forms, List.forall_mem_cons] at h
  unfold ofName
  split <;> simp_all

/-- Everything that a name and an argument can come to. -/
theorem ofName_cases (name : String) (argument : Option String) :
    (∃ form ∈ forms, form.name = name ∧ form.Makes (ofName name argument)) ∨
      (∀ form ∈ forms, name ≠ form.name) ∧ ofName name argument = .unknown name := by
  by_cases h : ∃ form ∈ forms, form.name = name
  · obtain ⟨form, hform, rfl⟩ := h
    refine .inl ⟨form, hform, rfl, ?_⟩
    cases argument with
    | none => exact .inl (ofName_none form hform)
    | some argument => exact .inr ⟨argument, ofName_some form hform argument⟩
  · have hnot : ∀ form ∈ forms, name ≠ form.name := fun form hform hname =>
      h ⟨form, hform, hname.symm⟩
    exact .inr ⟨hnot, ofName_of_not_form hnot argument⟩

/-! ## Spellings -/

theorem isSingle_of_mem_name : ∀ form ∈ forms, ∀ c ∈ form.name.toList,
    Utf8.IsSingle c ∧ c ≠ 'k' := by
  -- By `all`, since the quantifier over characters would be decided by going through all of them.
  have hall : forms.all (fun form => form.name.toList.all fun c =>
      decide (0 < c.toNat ∧ c.toNat < 0x80) && c != 'k') = true := by decide
  simpa [Utf8.IsSingle] using hall

theorem not_isBlank_of_mem_name : ∀ form ∈ forms, ∀ c ∈ form.name.toList.map Char.toLower,
    isBlank c = false := by
  have hall : forms.all (fun form => (form.name.toList.map Char.toLower).all fun c =>
      !isBlank c) = true := by decide
  simpa using hall

theorem head?_name : ∀ form ∈ forms, form.name.toList.head? = some '/' := by decide

theorem map_toLower_name : ∀ form ∈ forms,
    form.name.toList.map Char.toLower = form.name.toList := by
  decide

/-- Lowering all of Unicode finds the ASCII spellings of a name, and no others. -/
theorem lower_eq_name_iff (hform : form ∈ forms) (text : List Char) :
    String.ofList (lower text) = form.name ↔ Spells form.name text := by
  rw [Spells, map_toLower_name form hform,
    ← lower_eq_iff_of_ascii (isSingle_of_mem_name form hform), ← String.toList_inj,
    String.toList_ofList]

theorem isWord_iff (hword : word.toList.map Char.toLower = word.toList) :
    isWord word text = true ↔ Spells word text := by
  rw [isWord, beq_iff_eq, Spells, hword]

theorem Spells.head? (h : Spells word text) :
    text.head?.map Char.toLower = word.toList.head?.map Char.toLower := by
  rw [← List.head?_map, ← List.head?_map, h]

theorem eq_slash_of_toLower {c : Char} (h : c.toLower = '/') : c = '/' := by
  have hlow := toNat_toLower c
  rw [h] at hlow
  have hslash : ('/' : Char).toNat = 47 := rfl
  apply Char.toNat_inj.mp
  split at hlow <;> omega

theorem head?_of_spells (hform : form ∈ forms) (h : Spells form.name text) :
    text.head? = some '/' := by
  have hhead := h.head?
  rw [head?_name form hform] at hhead
  obtain ⟨c, hc, hslash⟩ := Option.map_eq_some_iff.mp hhead
  rw [hc, eq_slash_of_toLower hslash]

theorem not_isBlank_of_spells (hform : form ∈ forms) (h : Spells form.name text) :
    ∀ c ∈ text, isBlank c = false := by
  intro c hc
  rw [← isBlank_toLower]
  exact not_isBlank_of_mem_name form hform _ (h ▸ List.mem_map_of_mem hc)

theorem not_spells_of_slash (h : text.head? = some '/')
    (hword : word.toList.head?.map Char.toLower ≠ some '/') : ¬ Spells word text := by
  intro hspells
  apply hword
  rw [← hspells.head?, h]
  rfl

/-! ## Reading -/

/-- The argument in what stands behind the first word of a line. -/
def argumentIn (rest : List Char) : Option String :=
  if (trim (rest.drop 1)).isEmpty then none else some (String.ofList (trim (rest.drop 1)))

theorem isWord_exit_iff : isWord "exit" text = true ↔ Spells "exit" text := isWord_iff (by decide)

theorem isWord_quit_iff : isWord "quit" text = true ↔ Spells "quit" text := isWord_iff (by decide)

theorem ofLine?_of_slash (h : (trim line.toList).head? = some '/') :
    ofLine? line = some (ofName (String.ofList (lower (firstWord line)))
      (argumentIn ((trim line.toList).dropWhile fun c => !isBlank c))) := by
  have hexit : isWord "exit" (trim line.toList) = false := by
    rw [← Bool.not_eq_true, isWord_exit_iff]
    exact not_spells_of_slash h (by decide)
  have hquit : isWord "quit" (trim line.toList) = false := by
    rw [← Bool.not_eq_true, isWord_quit_iff]
    exact not_spells_of_slash h (by decide)
  unfold ofLine?
  simp only [hexit, hquit, h, Bool.or_self, Bool.false_eq_true, if_false, ne_eq, not_true_eq_false]
  rfl

theorem ofLine?_of_not_slash (h : (trim line.toList).head? ≠ some '/') :
    ofLine? line = if Spells "exit" (trim line.toList) ∨ Spells "quit" (trim line.toList)
      then some exit else none := by
  unfold ofLine?
  simp only [if_pos h, Bool.or_eq_true, isWord_exit_iff, isWord_quit_iff]

theorem ofLine?_congr {other : String} (h : trim line.toList = trim other.toList) :
    ofLine? line = ofLine? other := by
  unfold ofLine?
  rw [h]

theorem head?_firstWord_iff :
    (firstWord line).head? = some '/' ↔ (trim line.toList).head? = some '/' := by
  unfold firstWord
  cases trim line.toList with
  | nil => rfl
  | cons c rest =>
    rw [List.takeWhile_cons]
    cases hblank : isBlank c with
    | false => rfl
    | true =>
      refine iff_of_false nofun ?_
      intro hslash
      rw [Option.some.inj hslash] at hblank
      exact absurd hblank (by decide)

theorem slash_of_spells (hform : form ∈ forms) (h : Spells form.name (firstWord line)) :
    (trim line.toList).head? = some '/' := head?_firstWord_iff.mp (head?_of_spells hform h)

/-- A line that begins with a slash is a command by its name or unknown. -/
theorem ofLine?_cases (h : (trim line.toList).head? = some '/') :
    (∃ form ∈ forms, Spells form.name (firstWord line) ∧
        ∃ c, ofLine? line = some c ∧ form.Makes c) ∨
      (∀ form ∈ forms, ¬ Spells form.name (firstWord line)) ∧
        ofLine? line = some (.unknown (String.ofList (lower (firstWord line)))) := by
  rw [ofLine?_of_slash h]
  obtain ⟨form, hform, hname, hmakes⟩ | ⟨hnot, hunknown⟩ :=
    ofName_cases (String.ofList (lower (firstWord line)))
      (argumentIn ((trim line.toList).dropWhile fun c => !isBlank c))
  · exact .inl ⟨form, hform, (lower_eq_name_iff hform _).mp hname.symm, _, rfl, hmakes⟩
  · refine .inr ⟨fun form hform hspells => ?_, congrArg some hunknown⟩
    exact hnot form hform ((lower_eq_name_iff hform _).mpr hspells)

theorem ofLine?_eq_none_iff : ofLine? line = none ↔ (trim line.toList).head? ≠ some '/' ∧
    ¬ Spells "exit" (trim line.toList) ∧ ¬ Spells "quit" (trim line.toList) := by
  by_cases hslash : (trim line.toList).head? = some '/'
  · rw [ofLine?_of_slash hslash]
    exact iff_of_false nofun fun h => h.1 hslash
  · rw [ofLine?_of_not_slash hslash, ← not_or]
    split
    · next hleaves => exact iff_of_false nofun fun h => h.2 hleaves
    · next hstays => exact iff_of_true rfl ⟨hslash, hstays⟩

theorem ofLine?_eq_exit_iff_spells : ofLine? line = some exit ↔
    Spells "exit" (trim line.toList) ∨ Spells "quit" (trim line.toList) := by
  rw [Repl.ofLine?_eq_exit_iff, Repl.leaves, Bool.or_eq_true, isWord_exit_iff, isWord_quit_iff]

theorem exists_makes_iff (hform : form ∈ forms) :
    (∃ c, ofLine? line = some c ∧ form.Makes c) ↔ Spells form.name (firstWord line) := by
  constructor
  · intro h
    obtain ⟨c, hc, hmakes⟩ := h
    by_cases hslash : (trim line.toList).head? = some '/'
    · obtain ⟨other, hother, hspells, c', hc', hmakes'⟩ | ⟨-, hunknown⟩ := ofLine?_cases hslash
      · obtain rfl : c = c' := Option.some.inj (hc.symm.trans hc')
        have hname : some form.name = some other.name := by
          rw [← calledBy_of_makes hform hmakes, calledBy_of_makes hother hmakes']
        rwa [Option.some.inj hname]
      · obtain rfl := Option.some.inj (hunknown.symm.trans hc)
        exact absurd hmakes (not_makes_of_calledBy hform rfl)
    · rw [ofLine?_of_not_slash hslash] at hc
      split at hc
      · obtain rfl := Option.some.inj hc
        exact absurd hmakes (not_makes_of_calledBy hform rfl)
      · cases hc
  · intro hspells
    rw [ofLine?_of_slash (slash_of_spells hform hspells),
      (lower_eq_name_iff hform _).mpr hspells]
    cases argumentIn ((trim line.toList).dropWhile fun c => !isBlank c) with
    | none => exact ⟨_, rfl, .inl (ofName_none form hform)⟩
    | some argument => exact ⟨_, rfl, .inr ⟨argument, ofName_some form hform argument⟩⟩

theorem ofLine?_eq_unknown_iff {name : String} : ofLine? line = some (.unknown name) ↔
    (firstWord line).head? = some '/' ∧ (∀ form ∈ forms, ¬ Spells form.name (firstWord line)) ∧
      name = String.ofList (lower (firstWord line)) := by
  rw [head?_firstWord_iff]
  by_cases hslash : (trim line.toList).head? = some '/'
  · obtain ⟨form, hform, hspells, c, hc, hmakes⟩ | ⟨hnot, hunknown⟩ := ofLine?_cases hslash
    · refine iff_of_false ?_ fun h => h.2.1 form hform hspells
      intro hunknown
      obtain rfl := Option.some.inj (hunknown.symm.trans hc)
      exact not_makes_of_calledBy hform rfl hmakes
    · rw [hunknown]
      constructor
      · intro h
        exact ⟨hslash, hnot, (Command.unknown.inj (Option.some.inj h)).symm⟩
      · intro h
        rw [h.2.2]
  · refine iff_of_false ?_ fun h => hslash h.1
    rw [ofLine?_of_not_slash hslash]
    split <;> nofun

/-! ## Arguments -/

theorem argumentIn_append (hblanks : blanks ≠ []) (hblank : ∀ c ∈ blanks, isBlank c = true)
    (hargument : argument ≠ []) (hbare : Bare argument) :
    argumentIn (blanks ++ argument) = some (String.ofList argument) := by
  obtain ⟨first, blanks, rfl⟩ := List.exists_cons_of_ne_nil hblanks
  obtain ⟨-, hblank⟩ := List.forall_mem_cons.mp hblank
  have hcut : trim ((first :: blanks ++ argument).drop 1) = argument := by
    show trim (blanks ++ argument) = argument
    rw [trim_blank_append hblank, trim_of_bare hbare]
  rw [argumentIn, hcut, if_neg (by simpa using hargument)]

/-- A name ends at the white space behind it. -/
theorem ofLine?_name_append {rest : List Char} (hform : form ∈ forms)
    (hspells : Spells form.name text) (hrest : ∀ c ∈ rest.head?, isBlank c = true)
    (hbare : Bare (text ++ rest)) :
    ofLine? (String.ofList (text ++ rest)) = some (ofName form.name (argumentIn rest)) := by
  have hword : ∀ c ∈ text, (!isBlank c) = true := by
    intro c hc
    rw [not_isBlank_of_spells hform hspells c hc]
    rfl
  have hstop : ∀ c ∈ rest.head?, (!isBlank c) = false := by
    intro c hc
    rw [hrest c hc]
    rfl
  obtain ⟨hfirst, hbehind⟩ := span_append hword hstop
  have htrim : trim (String.ofList (text ++ rest)).toList = text ++ rest := by
    rw [String.toList_ofList, trim_of_bare hbare]
  have hspelled : Spells form.name (firstWord (String.ofList (text ++ rest))) := by
    rwa [firstWord, htrim, hfirst]
  rw [ofLine?_of_slash (slash_of_spells hform hspelled), (lower_eq_name_iff hform _).mpr hspelled,
    htrim, hbehind]

theorem ofLine?_name (hform : form ∈ forms) (hspells : Spells form.name text) :
    ofLine? (String.ofList text) = some form.alone := by
  have hbare : Bare (text ++ []) := by
    rw [List.append_nil]
    exact bare_of_forall (not_isBlank_of_spells hform hspells)
  have hread : ofLine? (String.ofList (text ++ [])) = some (ofName form.name none) :=
    ofLine?_name_append hform hspells nofun hbare
  rw [List.append_nil] at hread
  rw [hread, ofName_none form hform]

theorem ofLine?_name_argument (hform : form ∈ forms) (hspells : Spells form.name text)
    (hblanks : blanks ≠ []) (hblank : ∀ c ∈ blanks, isBlank c = true) (hargument : argument ≠ [])
    (hbare : Bare argument) :
    ofLine? (String.ofList (text ++ blanks ++ argument)) =
      some (form.given (String.ofList argument)) := by
  have hslash := head?_of_spells hform hspells
  have htext : text ≠ [] := by
    intro hnil
    rw [hnil] at hslash
    cases hslash
  have hhead : ∀ c ∈ (text ++ blanks).head?, isBlank c = false := by
    intro c hc
    rw [List.head?_append, hslash] at hc
    obtain rfl := Option.some.inj hc
    rfl
  have hwhole : Bare (text ++ (blanks ++ argument)) := by
    rw [← List.append_assoc]
    exact bare_append (List.append_ne_nil_of_left_ne_nil htext _) hhead hargument hbare.2
  have hbehind : ∀ c ∈ (blanks ++ argument).head?, isBlank c = true := by
    intro c hc
    rw [List.head?_append, Option.or_of_isSome (List.isSome_head?.mpr hblanks)] at hc
    exact hblank c (List.mem_of_mem_head? hc)
  rw [List.append_assoc, ofLine?_name_append hform hspells hbehind hwhole,
    argumentIn_append hblanks hblank hargument hbare, ofName_some form hform]

/-- A text without white space at its ends is a word, or a word and an argument with white space
between them. -/
theorem exists_argument (h : Bare text) :
    text.takeWhile (fun c => !isBlank c) = text ∨
      ∃ blanks argument, text.takeWhile (fun c => !isBlank c) ++ blanks ++ argument = text ∧
        blanks ≠ [] ∧ (∀ c ∈ blanks, isBlank c = true) ∧ argument ≠ [] ∧ Bare argument := by
  have hcut := List.takeWhile_append_dropWhile (p := fun c => !isBlank c) (l := text)
  have hstop := List.head?_dropWhile_not (fun c => !isBlank c) text
  cases hrest : text.dropWhile fun c => !isBlank c with
  | nil =>
    rw [hrest, List.append_nil] at hcut
    exact .inl hcut
  | cons c rest =>
    rw [hrest] at hcut hstop
    have hc : isBlank c = true := by simpa using hstop
    have hlast : (c :: rest).getLast? = text.getLast? := by
      rw [← hcut, List.getLast?_append, Option.or_of_isSome (by simp)]
    have hparts := List.takeWhile_append_dropWhile (p := isBlank) (l := c :: rest)
    have hargument : (c :: rest).dropWhile isBlank ≠ [] := by
      -- Else the text would end in white space.
      intro hnil
      have hsome := List.getLast?_isSome.mpr (List.cons_ne_nil c rest)
      obtain ⟨l, hl⟩ := Option.isSome_iff_exists.mp hsome
      have hblank := List.dropWhile_eq_nil_iff.mp hnil l (List.mem_of_getLast? hl)
      rw [h.2 l (hlast ▸ hl)] at hblank
      cases hblank
    refine .inr ⟨(c :: rest).takeWhile isBlank, (c :: rest).dropWhile isBlank, ?_, ?_,
      fun x hx => List.mem_takeWhile_imp hx, hargument, ?_, ?_⟩
    · rw [List.append_assoc, hparts, hcut]
    · rw [List.takeWhile_cons_of_pos hc]
      exact List.cons_ne_nil _ _
    · intro x hx
      have hnot := List.head?_dropWhile_not isBlank (c :: rest)
      rw [hx] at hnot
      exact hnot
    · rw [← hparts, List.getLast?_append,
        Option.or_of_isSome (List.getLast?_isSome.mpr hargument)] at hlast
      rw [hlast]
      exact h.2

/-! ## The grammar -/

theorem grammar_ofLine? : Grammar ofLine? where
  trimmed line := ofLine?_congr (by rw [String.toList_ofList, trim_trim])
  padded front text back hfront hback := by
    apply ofLine?_congr
    rw [String.toList_ofList, String.toList_ofList, trim_append_blank hback,
      trim_blank_append hfront]
  question _ := ofLine?_eq_none_iff
  leaving _ := ofLine?_eq_exit_iff_spells
  known _ hform _ := exists_makes_iff hform
  unknown _ _ := ofLine?_eq_unknown_iff
  alone _ hform _ hspells := ofLine?_name hform hspells
  given _ hform _ _ _ hspells hblanks hblank hargument hbare :=
    ofLine?_name_argument hform hspells hblanks hblank hargument hbare

/-- The grammar leaves nothing open. -/
theorem Grammar.unique {read read' : String → Option Command} (h : Grammar read)
    (h' : Grammar read') : read = read' := by
  funext line
  by_cases hform : ∃ form ∈ forms, Spells form.name (firstWord line)
  · obtain ⟨form, hform, hspells⟩ := hform
    rw [h.trimmed, h'.trimmed]
    obtain hword | ⟨blanks, argument, hparts, hblanks, hblank, hargument, hbare⟩ :=
      exists_argument (bare_trim line.toList)
    · have hline : trim line.toList = firstWord line := hword.symm
      rw [hline, h.alone form hform _ hspells, h'.alone form hform _ hspells]
    · have hline : trim line.toList = firstWord line ++ blanks ++ argument := hparts.symm
      rw [hline, h.given form hform _ _ _ hspells hblanks hblank hargument hbare,
        h'.given form hform _ _ _ hspells hblanks hblank hargument hbare]
  · have hnot : ∀ form ∈ forms, ¬ Spells form.name (firstWord line) := fun form hmem hspells =>
      hform ⟨form, hmem, hspells⟩
    by_cases hslash : (trim line.toList).head? = some '/'
    · have hfirst := head?_firstWord_iff.mpr hslash
      rw [(h.unknown line _).mpr ⟨hfirst, hnot, rfl⟩, (h'.unknown line _).mpr ⟨hfirst, hnot, rfl⟩]
    · by_cases hleaves : Spells "exit" (trim line.toList) ∨ Spells "quit" (trim line.toList)
      · rw [(h.leaving line).mpr hleaves, (h'.leaving line).mpr hleaves]
      · have hstays := not_or.mp hleaves
        rw [(h.question line).mpr ⟨hslash, hstays⟩, (h'.question line).mpr ⟨hslash, hstays⟩]

/-- The reader of commands follows the grammar, and it is the only one that does. -/
theorem grammar_iff_eq_ofLine? (read : String → Option Command) :
    Grammar read ↔ read = ofLine? := by
  constructor
  · intro h
    exact h.unique grammar_ofLine?
  · intro h
    rw [h]
    exact grammar_ofLine?

/-- White space around a line and before an argument is cut, that within the argument stays. -/
example : ofLine? " /Search\u2003 Fn  main " = some (search "Fn  main") := by decide +kernel

/-- The capital I with a dot is not taken for an `i`. -/
example : ofLine? "/f\u0130les" = some (.unknown "/fi\u0307les") := by decide +kernel

end FileChat.Command
