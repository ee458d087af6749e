import FileChat.Proofs.Json.Spelling

/-!
# Compact texts

`Writes` relates a value to its texts without white space, in which the strings may be spelled in
any way. Numbers are whole and fit 64 bits; a floating-point value has no text here. The lenient
reader gives the value back for each of its texts, wherever the text stands, and what the writer
writes is one of them.
-/
namespace FileChat.Json

mutual
/-- A text of a value. -/
inductive Writes : Value → List Char → Prop
  | null : Writes .null ['n', 'u', 'l', 'l']
  | true : Writes (.bool true) ['t', 'r', 'u', 'e']
  | false : Writes (.bool false) ['f', 'a', 'l', 's', 'e']
  | natural {n : Nat} : n < 0x10000000000000000 → Writes (.integer n) (Nat.toDigits 10 n)
  | negative {n : Nat} :
      0 < n → n ≤ 0x8000000000000000 → Writes (.integer (-(n : Int))) ('-' :: Nat.toDigits 10 n)
  | string {s : String} {t : List Char} :
      Spells s.toList t → Writes (.string s) ('"' :: (t ++ ['"']))
  | emptyArray : Writes (.array []) ['[', ']']
  | array {v : Value} {vs : List Value} {t t' : List Char} :
      Writes v t → WritesItems vs t' → Writes (.array (v :: vs)) ('[' :: (t ++ t'))
  | emptyObject : Writes (.object []) ['\x7b', '\x7d']
  | object {k : String} {v : Value} {ms : List (String × Value)} {u t t' : List Char} :
      Spells k.toList u → Writes v t → WritesMembers ms t' →
      Writes (.object ((k, v) :: ms)) ('\x7b' :: '"' :: (u ++ '"' :: ':' :: (t ++ t')))
/-- A text of the items after the first, up to the closing bracket. -/
inductive WritesItems : List Value → List Char → Prop
  | nil : WritesItems [] [']']
  | cons {v : Value} {vs : List Value} {t t' : List Char} :
      Writes v t → WritesItems vs t' → WritesItems (v :: vs) (',' :: (t ++ t'))
/-- A text of the members after the first, up to the closing brace. -/
inductive WritesMembers : List (String × Value) → List Char → Prop
  | nil : WritesMembers [] ['\x7d']
  | cons {k : String} {v : Value} {ms : List (String × Value)} {u t t' : List Char} :
      Spells k.toList u → Writes v t → WritesMembers ms t' →
      WritesMembers ((k, v) :: ms) (',' :: '"' :: (u ++ '"' :: ':' :: (t ++ t')))
end

/-- What may follow a value: nothing that a numeral could go on with. -/
def Apart (rest : List Char) : Prop :=
  ∀ c ∈ rest.head?, c.isDigit = false ∧ c ≠ '.' ∧ c ≠ 'e' ∧ c ≠ 'E'

theorem WritesItems.apart {vs : List Value} {t : List Char} (h : WritesItems vs t)
    (rest : List Char) : Apart (t ++ rest) := by
  cases h with
  | nil => simp [Apart]
  | cons => simp [Apart]

theorem WritesMembers.apart {ms : List (String × Value)} {t : List Char} (h : WritesMembers ms t)
    (rest : List Char) : Apart (t ++ rest) := by
  cases h with
  | nil => simp [Apart]
  | cons => simp [Apart]

namespace Reader

variable {frames : List Frame} {slot : ValueSlot} {c : Char} {r : Reader} {rest : List Char}

/-! ## First characters -/

theorem run_value (hblank : isBlank c = false) (hclose : c ≠ ']')
    (hbegin : beginValue false frames c = .ok r) :
    run false ⟨frames, .value slot⟩ (c :: rest) = run false r rest := by
  have hstep : step false ⟨frames, .value slot⟩ c rest = .ok r := by
    cases slot <;> simp [step, stepValue, hblank, hclose, hbegin]
  rw [run, hstep]

theorem run_key {key k : String} {members : List (String × Value)} {first : Bool} {u : List Char}
    (h : Spells k.toList u) :
    run false ⟨.object members key true :: frames, .key first⟩ ('"' :: (u ++ '"' :: ':' :: rest)) =
      run false ⟨.object members k true :: frames, .value .only⟩ rest := by
  have hopen : run false ⟨.object members key true :: frames, .key first⟩
      ('"' :: (u ++ '"' :: ':' :: rest)) =
        run false ⟨.object members key true :: frames, startString true⟩
          (u ++ '"' :: ':' :: rest) := by
    rfl
  rw [hopen, startString, run_spells h rfl]
  have hend : endString (.object members key true :: frames)
      ⟨true, k.toList.reverse ++ [], true, .none⟩ = ⟨.object members k true :: frames, .colon⟩ := by
    simp [endString]
  rw [hend]
  rfl

/-! ## Numbers -/

/-- A numeral of which only digits before the point have been read, and none was dropped. -/
def whole (negative : Bool) (n : Nat) : Numeral := { Numeral.start negative with significand := n }

theorem value?_natural (n : Nat) : (whole false n).value? = some (.integer n) := by
  simp [whole, Numeral.value?, Numeral.start]

theorem value?_negative {n : Nat} (hpos : 0 < n) (h : n ≤ 0x8000000000000000) :
    (whole true n).value? = some (.integer (-(n : Int))) := by
  have hnot : ¬ ((whole true n).whole = true ∧ ¬ (whole true n).negative = true) := by
    rintro ⟨-, hpositive⟩
    exact hpositive rfl
  have hfits : (whole true n).whole = true ∧ 0 < n ∧ n ≤ 0x8000000000000000 := ⟨rfl, hpos, h⟩
  rw [Numeral.value?, if_neg hnot]
  exact if_pos hfits

/-- Further digits make a number no less. -/
theorem le_ofDigitChars (ds : List Char) (n : Nat) : n ≤ Nat.ofDigitChars 10 ds n := by
  rw [Nat.ofDigitChars_eq_ofDigitChars_zero]
  have hpower := Nat.le_mul_of_pos_left n (Nat.pow_pos (n := ds.length) (by decide : 0 < 10))
  omega

/-- Digits as many as fit are gathered into their number. -/
theorem run_digits {negative : Bool} {ds : List Char} {n : Nat}
    (hds : ∀ c ∈ ds, c.isDigit = true) (hfits : Nat.ofDigitChars 10 ds n < 0x10000000000000000) :
    run false ⟨frames, .number (whole negative n) .whole⟩ (ds ++ rest) =
      run false ⟨frames, .number (whole negative (Nat.ofDigitChars 10 ds n)) .whole⟩ rest := by
  induction ds generalizing n with
  | nil => rfl
  | cons c ds ih =>
    rw [Nat.ofDigitChars_cons] at hfits ⊢
    have hle := le_ofDigitChars ds (10 * n + (c.toNat - '0'.toNat))
    have hdigit := hds c List.mem_cons_self
    have hnext : (whole negative n).wholeDigit (digit c) =
        whole negative (10 * n + (c.toNat - '0'.toNat)) := by
      have hsum : n * 10 + digit c = 10 * n + (c.toNat - '0'.toNat) := by rw [digit]; omega
      have hroom : ¬ ((whole negative n).full = true ∨ Numeral.limit ≤ n * 10 + digit c) := by
        rw [hsum]
        rintro (hfull | hbeyond)
        · cases hfull
        · have hlimit : Numeral.limit = 0x10000000000000000 := rfl
          omega
      rw [Numeral.wholeDigit]
      refine (if_neg hroom).trans ?_
      rw [← hsum]
      rfl
    have hstep : run false ⟨frames, .number (whole negative n) .whole⟩ (c :: ds ++ rest) =
        run false ⟨frames, .number ((whole negative n).wholeDigit (digit c)) .whole⟩
          (ds ++ rest) := by
      simp [run, step, stepNumeral, hdigit]
    rw [hstep, hnext]
    exact ih (fun d hd => hds d (List.mem_cons_of_mem _ hd)) hfits

/-- The phases in which a numeral may end. -/
def mayEnd : NumeralPhase → Bool
  | .zero | .whole | .fraction | .exponent => true
  | .sign | .point | .mark | .exponentSign => false

/-- A numeral ends before what cannot go on with it, or at the end of the text. -/
theorem run_number {n : Numeral} {v : Value} {phase : NumeralPhase} (hn : n.value? = some v)
    (hphase : mayEnd phase = true) (hrest : Apart rest) :
    run false ⟨frames, .number n phase⟩ rest = run false (deliver frames v) rest := by
  have hvalue : numeralValue false n = .ok v := by rw [numeralValue, hn]
  cases rest with
  | nil =>
    have hfinish : finish false ⟨frames, .number n phase⟩ = finish false (deliver frames v) := by
      cases phase <;> cases hphase <;> rcases frames with _ | ⟨_ | _, _⟩ <;>
        simp [finish, hvalue, deliver, endCause]
    rw [run, run, hfinish]
  | cons c rest =>
    obtain ⟨hdigit, hpoint, hlower, hupper⟩ := hrest c rfl
    have hstep : step false ⟨frames, .number n phase⟩ c rest =
        step false (deliver frames v) c rest := by
      cases phase <;> cases hphase <;> rcases frames with _ | ⟨_ | _, _⟩ <;>
        simp [step, stepNumeral, hdigit, hpoint, hlower, hupper, endNumeral, hvalue, stepAfter,
          deliver]
    rw [run, run, hstep]

theorem ne_of_isDigit {d : Char} (hc : c.isDigit = true) (hd : d.isDigit = false) : c ≠ d := by
  rintro rfl
  rw [hc] at hd
  cases hd

theorem not_isBlank_of_isDigit (hc : c.isDigit = true) : isBlank c = false := by
  simp [isBlank, ne_of_isDigit hc]

/-- A numeral begins as if digits had come before. -/
theorem run_firstDigit (hc : c.isDigit = true) (hzero : c ≠ '0') :
    run false ⟨frames, .value slot⟩ (c :: rest) =
      run false ⟨frames, .number (whole false 0) .whole⟩ (c :: rest) := by
  rw [run_value (r := ⟨frames, .number ((whole false 0).wholeDigit (digit c)) .whole⟩)
    (not_isBlank_of_isDigit hc) (ne_of_isDigit hc (by decide))]
  · simp [run, step, stepNumeral, hc]
  · simp [beginValue, ne_of_isDigit hc, hc, hzero]
    rfl

theorem run_firstDigit_sign (hc : c.isDigit = true) (hzero : c ≠ '0') :
    run false ⟨frames, .number (whole true 0) .sign⟩ (c :: rest) =
      run false ⟨frames, .number (whole true 0) .whole⟩ (c :: rest) := by
  simp [run, step, stepNumeral, hc, hzero]

theorem toDigits_eq_cons {n : Nat} (h : 0 < n) : ∃ c cs, Nat.toDigits 10 n = c :: cs ∧ c ≠ '0' := by
  induction n using Nat.strongRecOn with
  | ind n ih =>
    rw [Nat.toDigits_eq_if (by decide)]
    split
    · next hlt =>
      have hdigit : ∀ d < 10, 0 < d → d.digitChar ≠ '0' := by decide
      exact ⟨_, [], rfl, hdigit n hlt h⟩
    · next hle =>
      obtain ⟨c, cs, hcs, hc⟩ := ih (n / 10) (by omega) (by omega)
      exact ⟨c, cs ++ [(n % 10).digitChar], by rw [hcs]; rfl, hc⟩

theorem isDigit_of_mem_toDigits {n : Nat} : ∀ c ∈ Nat.toDigits 10 n, c.isDigit = true :=
  fun _ hc => Nat.isDigit_of_mem_toDigits (by decide) (by decide) hc

/-- The sign in front of a number. -/
def signText (negative : Bool) : List Char := if negative then ['-'] else []

/-- Digits that do not begin with a zero, unless it is all there is. -/
def Leads (ds : List Char) : Prop := ds = ['0'] ∨ ∃ c cs, ds = c :: cs ∧ c ≠ '0'

/-- The digits before a point. -/
theorem run_wholePart (frames : List Frame) (slot : ValueSlot) (negative : Bool) {ds : List Char}
    (rest : List Char) (hds : ∀ c ∈ ds, c.isDigit = true)
    (hhead : Leads ds) (hfits : Nat.ofDigitChars 10 ds 0 < 0x10000000000000000) :
    ∃ phase, (phase = .zero ∨ phase = .whole) ∧
      run false ⟨frames, .value slot⟩ (signText negative ++ (ds ++ rest)) =
        run false ⟨frames, .number (whole negative (Nat.ofDigitChars 10 ds 0)) phase⟩ rest := by
  have hsign : run false ⟨frames, .value slot⟩ (signText true ++ (ds ++ rest)) =
      run false ⟨frames, .number (whole true 0) .sign⟩ (ds ++ rest) :=
    run_value (r := ⟨frames, .number (whole true 0) .sign⟩) (by decide) (by decide) rfl
  rcases hhead with rfl | ⟨c, cs, rfl, hzero⟩
  · refine ⟨.zero, .inl rfl, ?_⟩
    cases negative with
    | false => cases slot <;> rfl
    | true => exact hsign.trans rfl
  · have hdigit := hds c List.mem_cons_self
    refine ⟨.whole, .inr rfl, ?_⟩
    rw [← run_digits hds hfits]
    cases negative with
    | false => exact run_firstDigit hdigit hzero
    | true => exact hsign.trans (run_firstDigit_sign hdigit hzero)

theorem run_toDigits (frames : List Frame) (slot : ValueSlot) (negative : Bool) {n : Nat}
    (rest : List Char) (h : n < 0x10000000000000000) :
    ∃ phase, (phase = .zero ∨ phase = .whole) ∧
      run false ⟨frames, .value slot⟩ (signText negative ++ (Nat.toDigits 10 n ++ rest)) =
        run false ⟨frames, .number (whole negative n) phase⟩ rest := by
  have hnumber : Nat.ofDigitChars 10 (Nat.toDigits 10 n) 0 = n := Nat.ofDigitChars_ten_toDigits
  have hhead : Leads (Nat.toDigits 10 n) := by
    rcases Nat.eq_zero_or_pos n with rfl | hpos
    · exact .inl rfl
    · exact .inr (toDigits_eq_cons hpos)
  have hwhole := run_wholePart frames slot negative rest isDigit_of_mem_toDigits hhead
    (by rwa [hnumber])
  rwa [hnumber] at hwhole

theorem run_natural {n : Nat} (h : n < 0x10000000000000000) (hrest : Apart rest) :
    run false ⟨frames, .value slot⟩ (Nat.toDigits 10 n ++ rest) =
      run false (deliver frames (.integer n)) rest := by
  obtain ⟨phase, hphase, hrun⟩ := run_toDigits frames slot false rest h
  refine hrun.trans (run_number (value?_natural n) ?_ hrest)
  rcases hphase with rfl | rfl <;> rfl

theorem run_negative {n : Nat} (hpos : 0 < n) (h : n ≤ 0x8000000000000000) (hrest : Apart rest) :
    run false ⟨frames, .value slot⟩ ('-' :: Nat.toDigits 10 n ++ rest) =
      run false (deliver frames (.integer (-(n : Int)))) rest := by
  have hfits : n < 0x10000000000000000 := by omega
  obtain ⟨phase, hphase, hrun⟩ := run_toDigits frames slot true rest hfits
  refine hrun.trans (run_number (value?_negative hpos h) ?_ hrest)
  rcases hphase with rfl | rfl <;> rfl

/-! ## Values -/

theorem run_string {s : String} {t : List Char} (h : Spells s.toList t) :
    run false ⟨frames, .value slot⟩ ('"' :: (t ++ ['"']) ++ rest) =
      run false (deliver frames (.string s)) rest := by
  rw [List.cons_append, List.append_assoc,
    run_value (r := ⟨frames, startString false⟩) (by decide) (by decide) rfl]
  have hend : endString frames ⟨false, s.toList.reverse ++ [], true, .none⟩ =
      deliver frames (.string s) := by
    simp [endString]
  exact (run_spells h rfl).trans (congrArg (run false · rest) hend)

mutual
/-- A text of a value is read as the value, and what follows it is read where the value stands. -/
theorem run_writes {v : Value} {t : List Char} (h : Writes v t) (frames : List Frame)
    (slot : ValueSlot) {rest : List Char} (hrest : Apart rest) :
    run false ⟨frames, .value slot⟩ (t ++ rest) = run false (deliver frames v) rest := by
  cases h with
  | null => cases slot <;> rfl
  | true => cases slot <;> rfl
  | false => cases slot <;> rfl
  | natural hn => exact run_natural hn hrest
  | negative hpos hn => exact run_negative hpos hn hrest
  | string hs => exact run_string hs
  | emptyArray => cases slot <;> rfl
  | @array v vs t t' hv hvs =>
    -- the first item is read before anything is in the frame, the others after a comma
    rw [List.cons_append, List.append_assoc,
      run_value (r := ⟨.array [] :: frames, .value .first⟩) (by decide) (by decide) rfl,
      run_writes hv _ _ (hvs.apart rest)]
    exact run_items hvs frames [v] rest
  | emptyObject => cases slot <;> rfl
  | @object k v ms u t t' hk hv hms =>
    rw [List.cons_append, run_value (r := ⟨.object [] "" true :: frames, .key true⟩) (by decide)
      (by decide) rfl]
    simp only [List.cons_append, List.append_assoc]
    rw [run_key hk, run_writes hv _ _ (hms.apart rest)]
    exact run_members hms frames k [(k, v)] rest
theorem run_items {vs : List Value} {t : List Char} (h : WritesItems vs t) (frames : List Frame)
    (items : List Value) (rest : List Char) :
    run false ⟨.array items :: frames, .separator⟩ (t ++ rest) =
      run false (deliver frames (.array (items.reverse ++ vs))) rest := by
  cases h with
  | nil =>
    rw [List.append_nil]
    rfl
  | @cons v vs t t' hv hvs =>
    have hcomma : run false ⟨.array items :: frames, .separator⟩ (',' :: (t ++ t') ++ rest) =
        run false ⟨.array items :: frames, .value .next⟩ (t ++ (t' ++ rest)) := by
      rw [List.cons_append, List.append_assoc]
      rfl
    have hitems := run_items hvs frames (v :: items) rest
    rw [List.reverse_cons, List.append_assoc] at hitems
    rw [hcomma, run_writes hv _ _ (hvs.apart rest)]
    exact hitems
theorem run_members {ms : List (String × Value)} {t : List Char} (h : WritesMembers ms t)
    (frames : List Frame) (key : String) (members : List (String × Value)) (rest : List Char) :
    run false ⟨.object members key true :: frames, .separator⟩ (t ++ rest) =
      run false (deliver frames (.object (members.reverse ++ ms))) rest := by
  cases h with
  | nil =>
    rw [List.append_nil]
    rfl
  | @cons k v ms u t t' hk hv hms =>
    have hcomma : run false ⟨.object members key true :: frames, .separator⟩
        (',' :: '"' :: (u ++ '"' :: ':' :: (t ++ t')) ++ rest) =
        run false ⟨.object members key true :: frames, .key false⟩
          ('"' :: (u ++ '"' :: ':' :: (t ++ (t' ++ rest)))) := by
      simp only [List.cons_append, List.append_assoc]
      rfl
    have hmembers := run_members hms frames k ((k, v) :: members) rest
    rw [List.reverse_cons, List.append_assoc] at hmembers
    rw [hcomma, run_key hk, run_writes hv _ _ (hms.apart rest)]
    exact hmembers
end

end Reader

/-- The reader of a whole text gives the value back. -/
theorem ofText?_of_writes {v : Value} {t : List Char} (h : Writes v t) :
    Value.ofText? (String.ofList t) = some v := by
  have hrun : Reader.start.run false t = .ok v := by
    have hend : Apart [] := by simp [Apart]
    have hvalue := Reader.run_writes h [] .only hend
    rw [List.append_nil] at hvalue
    exact hvalue
  rw [Value.ofText?, String.toList_ofList, hrun]

example : Value.ofText? "[\"\\ud83d\\uDE00\",-7]" = some (.array [.string "😀", .integer (-7)]) := by
  rfl

/-! ## The characters of a text -/

theorem printable_toDigits (n : Nat) : Printable (Nat.toDigits 10 n) := by
  intro c hc
  have hdigit := Reader.isDigit_of_mem_toDigits c hc
  simp only [Char.isDigit, Bool.and_eq_true, decide_eq_true_eq] at hdigit
  exact Nat.le_trans (by decide) hdigit.1

mutual
/-- No text holds a control character, so none holds the end of a line. -/
theorem Writes.printable {v : Value} {t : List Char} (h : Writes v t) : Printable t := by
  cases h with
  | null | true | false | emptyArray | emptyObject =>
    simp only [printable_cons, printable_nil, and_true]
    decide
  | natural => exact printable_toDigits _
  | negative => exact printable_cons.mpr ⟨by decide, printable_toDigits _⟩
  | string hs =>
    simp only [printable_cons, printable_append]
    exact ⟨by decide, hs.printable, by decide, printable_nil⟩
  | array hv hvs =>
    simp only [printable_cons, printable_append]
    exact ⟨by decide, hv.printable, hvs.printable⟩
  | object hk hv hms =>
    simp only [printable_cons, printable_append]
    exact ⟨by decide, by decide, hk.printable, by decide, by decide, hv.printable, hms.printable⟩
theorem WritesItems.printable {vs : List Value} {t : List Char} (h : WritesItems vs t) :
    Printable t := by
  cases h with
  | nil => exact printable_cons.mpr ⟨by decide, printable_nil⟩
  | cons hv hvs =>
    simp only [printable_cons, printable_append]
    exact ⟨by decide, hv.printable, hvs.printable⟩
theorem WritesMembers.printable {ms : List (String × Value)} {t : List Char}
    (h : WritesMembers ms t) : Printable t := by
  cases h with
  | nil => exact printable_cons.mpr ⟨by decide, printable_nil⟩
  | cons hk hv hms =>
    simp only [printable_cons, printable_append]
    exact ⟨by decide, by decide, hk.printable, by decide, by decide, hv.printable, hms.printable⟩
end

theorem WritesMembers.getLast? {ms : List (String × Value)} {t : List Char}
    (h : WritesMembers ms t) : t.getLast? = some '\x7d' := by
  cases h with
  | nil => rfl
  | @cons k v ms u t t' hk hv hms =>
    have hlast := hms.getLast?
    simp [List.getLast?_cons, List.getLast?_append, hlast]

/-- The text of an object stands between braces. -/
theorem Writes.braces {ms : List (String × Value)} {t : List Char} (h : Writes (.object ms) t) :
    t.head? = some '\x7b' ∧ t.getLast? = some '\x7d' := by
  cases h with
  | emptyObject => exact ⟨rfl, rfl⟩
  | object hk hv hms =>
    refine ⟨rfl, ?_⟩
    have hlast := hms.getLast?
    simp [List.getLast?_cons, List.getLast?_append, hlast]

/-! ## Writing -/

mutual
/-- A value that its text tells in full: no floating-point value is in it, nothing unreadable, and
no number beyond 64 bits. -/
def Value.Exact : Value → Prop
  | .null | .bool _ | .string _ => True
  | .integer n => -0x8000000000000000 ≤ n ∧ n < 0x10000000000000000
  | .real _ _ | .unreadable => False
  | .array items => ExactItems items
  | .object members => ExactMembers members
def Value.ExactItems : List Value → Prop
  | [] => True
  | v :: vs => v.Exact ∧ ExactItems vs
def Value.ExactMembers : List (String × Value) → Prop
  | [] => True
  | (_, v) :: ms => v.Exact ∧ ExactMembers ms
end

theorem stringText_append (s rest : List Char) :
    stringText s ++ rest = '"' :: (s.flatMap escape ++ '"' :: rest) := by
  simp [stringText]

theorem writes_integer {n : Int} (hlow : -0x8000000000000000 ≤ n)
    (hhigh : n < 0x10000000000000000) : Writes (.integer n) (toString n).toList := by
  cases n with
  | ofNat n =>
    have htext : (toString (Int.ofNat n)).toList = Nat.toDigits 10 n := by
      change (Nat.repr n).toList = _
      rw [Nat.repr_eq_ofList_toDigits, String.toList_ofList]
    rw [htext]
    have hhigh' : (n : Int) < 0x10000000000000000 := hhigh
    exact .natural (by omega)
  | negSucc n =>
    have htext : (toString (Int.negSucc n)).toList = '-' :: Nat.toDigits 10 (n + 1) := by
      change ("-" ++ Nat.repr (n + 1)).toList = _
      rw [Nat.repr_eq_ofList_toDigits, String.toList_append, String.toList_ofList,
        String.toList_ofList]
      rfl
    rw [htext]
    exact .negative (Nat.succ_pos n) (by omega)

mutual
/-- What the writer writes is a text of the value. -/
theorem writes_text {v : Value} (h : v.Exact) : Writes v v.text := by
  cases v with
  | null => exact .null
  | bool b => cases b <;> constructor
  | integer n => exact writes_integer h.1 h.2
  | real => exact h.elim
  | string s => exact .string (spells_escape s.toList)
  | array items =>
    cases items with
    | nil => exact .emptyArray
    | cons v vs => exact .array (writes_text h.1) (writes_itemsText h.2)
  | object members =>
    cases members with
    | nil => exact .emptyObject
    | cons m ms =>
      obtain ⟨k, v⟩ := m
      rw [Value.text, stringText_append]
      exact .object (spells_escape k.toList) (writes_text h.1) (writes_membersText h.2)
  | unreadable => exact h.elim
theorem writes_itemsText {vs : List Value} (h : Value.ExactItems vs) :
    WritesItems vs (Value.itemsText vs) := by
  cases vs with
  | nil => exact .nil
  | cons v vs => exact .cons (writes_text h.1) (writes_itemsText h.2)
theorem writes_membersText {ms : List (String × Value)} (h : Value.ExactMembers ms) :
    WritesMembers ms (Value.membersText ms) := by
  cases ms with
  | nil => exact .nil
  | cons m ms =>
    obtain ⟨k, v⟩ := m
    rw [Value.membersText, stringText_append]
    exact .cons (spells_escape k.toList) (writes_text h.1) (writes_membersText h.2)
end

end FileChat.Json
