import FileChat.Text.Parser

/-!
# Running parsers

A sequence of parsers runs one after the other on what is left. `Yields` says what holds of whatever
a parser takes off a text, and is put together as the parser is.
-/
namespace FileChat.Parser

variable {α β : Type} {p q : Parser α} {f : α → Parser β} {Q : α → Prop} {R : β → Prop}

theorem run_bind (p : Parser α) (f : α → Parser β) (cs : List Char) :
    (p >>= f) cs = (p cs).bind fun r => f r.1 r.2 := rfl

/-- What follows runs on what a parser leaves. -/
theorem run_bind_of_eq {cs rest : List Char} {a : α} (h : p cs = some (a, rest)) :
    (p >>= f) cs = f a rest := by
  rw [run_bind, h, Option.bind_some]

theorem run_pure (a : α) (cs : List Char) : (pure a : Parser α) cs = some (a, cs) := rfl

section Characters

variable {c : Char} {rest : List Char}

theorem peek?_cons : peek? (c :: rest) = some (some c, c :: rest) := rfl

theorem ensure_true : ensure true rest = some ((), rest) := rfl

theorem satisfy_cons {p : Char → Bool} (h : p c = true) :
    satisfy p (c :: rest) = some (c, rest) := by
  rw [satisfy, if_pos h]

theorem char_cons : char c (c :: rest) = some ((), rest) := by
  have hsatisfy : satisfy (fun d => d == c) (c :: rest) = some (c, rest) :=
    satisfy_cons (beq_self_eq_true c)
  rw [char, run_bind_of_eq hsatisfy, run_pure]

end Characters

/-- What a parser takes, if it takes anything, has a property. -/
def Yields (p : Parser α) (Q : α → Prop) : Prop :=
  ∀ ⦃cs a rest⦄, p cs = some (a, rest) → Q a

theorem yields_true : Yields p fun _ => True := fun _ _ _ _ => trivial

theorem yields_pure {a : α} (h : Q a) : Yields (pure a) Q := by
  intro cs a' rest hrun
  rw [run_pure] at hrun
  cases hrun
  exact h

theorem Yields.bind (hp : Yields p Q) (hf : ∀ a, Q a → Yields (f a) R) : Yields (p >>= f) R := by
  intro cs b rest hrun
  rw [run_bind, Option.bind_eq_some_iff] at hrun
  obtain ⟨⟨a, mid⟩, hfirst, hsecond⟩ := hrun
  exact hf a (hp hfirst) hsecond

/-- A parser after one of which nothing need be known. -/
theorem yields_bind (hf : ∀ a, Yields (f a) R) : Yields (p >>= f) R :=
  yields_true.bind fun a _ => hf a

theorem yields_map {g : α → β} (h : ∀ a, R (g a)) : Yields (g <$> p) R := by
  intro cs b rest hrun
  obtain ⟨⟨a, mid⟩, -, heq⟩ := Option.bind_eq_some_iff.mp hrun
  cases heq
  exact h a

theorem Yields.orElse (hp : Yields p Q) (hq : Yields q Q) : Yields (p <|> q) Q := by
  intro cs a rest hrun
  change ((p cs).orElse fun _ => q cs) = _ at hrun
  cases hfirst : p cs with
  | some r =>
    rw [hfirst] at hrun
    cases hrun
    exact hp hfirst
  | none =>
    rw [hfirst] at hrun
    exact hq hrun

theorem Yields.many (hp : Yields p Q) (limit : Nat) :
    Yields (Parser.many limit p) fun as => ∀ a ∈ as, Q a := by
  induction limit with
  | zero =>
    rw [Parser.many]
    exact yields_pure fun a ha => absurd ha List.not_mem_nil
  | succ limit ih =>
    intro cs as rest hrun
    rw [Parser.many] at hrun
    dsimp only at hrun
    split at hrun
    · cases hrun
      exact fun a ha => absurd ha List.not_mem_nil
    · next a mid hfirst =>
      obtain ⟨⟨more, rest'⟩, hmore, heq⟩ := Option.bind_eq_some_iff.mp hrun
      cases heq
      exact List.forall_mem_cons.mpr ⟨hp hfirst, ih hmore⟩

theorem Yields.optional (hp : Yields p Q) : Yields (optional p) fun o => ∀ a ∈ o, Q a := by
  refine Yields.orElse (hp.bind fun a ha => yields_pure ?_) (yields_pure ?_)
  · rintro a' ⟨⟩
    exact ha
  · rintro a' ⟨⟩

theorem Yields.separated (hp : Yields p Q) (limit : Nat) (separator : Parser Unit) :
    Yields (Parser.separated limit p separator) fun as => ∀ a ∈ as, Q a := by
  refine hp.optional.bind fun first hfirst => ?_
  split
  · exact yields_pure fun a ha => absurd ha List.not_mem_nil
  · next a =>
    refine ((yields_bind fun _ => hp).many limit).bind fun more hmore => yields_pure ?_
    exact List.forall_mem_cons.mpr ⟨hfirst a rfl, hmore⟩

theorem yields_failure : Yields (failure : Parser α) Q := fun _ _ _ h => nomatch h

theorem yields_ofOption {o : Option α} (h : ∀ a, o = some a → Q a) : Yields (ofOption o) Q := by
  cases o with
  | some a => exact yields_pure (h a rfl)
  | none => exact yields_failure

end FileChat.Parser
