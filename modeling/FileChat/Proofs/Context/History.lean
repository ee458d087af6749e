import FileChat.History
import Mathlib.Algebra.Ring.Nat

/-!
# What trimming keeps of the history

The messages that are kept are the last ones of the history, without a gap between them, and their
estimates stay within the budget. An end of the history is kept exactly if it fits into the budget,
so what is kept is the longest end that fits; how it depends on the budget and on the history is
read off that.
-/
namespace FileChat

theorem totalTokens_eq_sum (messages : List Message) :
    totalTokens messages = (messages.map fun m => tokens m.content).sum := by
  rw [totalTokens, List.sum_eq_foldr, List.foldr_map]
  rfl

theorem totalTokens_append (xs ys : List Message) :
    totalTokens (xs ++ ys) = totalTokens xs + totalTokens ys := by
  induction xs with
  | nil => exact (Nat.zero_add _).symm
  | cons m xs ih =>
    change m.tokens + totalTokens (xs ++ ys) = m.tokens + totalTokens xs + totalTokens ys
    omega

theorem totalTokens_reverse (xs : List Message) : totalTokens xs.reverse = totalTokens xs := by
  induction xs with
  | nil => rfl
  | cons m xs ih =>
    have hone : totalTokens [m] = m.tokens := rfl
    rw [List.reverse_cons, totalTokens_append, ih, hone]
    exact Nat.add_comm _ _

theorem totalTokens_le_of_isPrefix {front messages : List Message} (h : front <+: messages) :
    totalTokens front ≤ totalTokens messages := by
  obtain ⟨rest, rfl⟩ := h
  rw [totalTokens_append]
  exact Nat.le_add_right _ _

namespace History

variable {history kept : List Message} {budget more : Nat} {m : Message}

theorem takeFitting_isPrefix (left : Nat) (messages : List Message) :
    takeFitting left messages <+: messages := by
  induction messages generalizing left with
  | nil => exact List.nil_prefix
  | cons m rest ih =>
    rw [takeFitting]
    split
    · exact List.cons_prefix_cons.mpr ⟨rfl, ih _⟩
    · exact List.nil_prefix

theorem totalTokens_takeFitting_le (left : Nat) (messages : List Message) :
    totalTokens (takeFitting left messages) ≤ left := by
  induction messages generalizing left with
  | nil => exact Nat.zero_le _
  | cons m rest ih =>
    rw [takeFitting]
    split
    · next hfit =>
      have hrest := ih (left - m.tokens)
      change m.tokens + totalTokens (takeFitting (left - m.tokens) rest) ≤ left
      omega
    · exact Nat.zero_le _

theorem trim_isSuffix (history : List Message) (budget : Nat) :
    trim history budget <:+ history := by
  have h := List.reverse_suffix.mpr (takeFitting_isPrefix budget history.reverse)
  rwa [List.reverse_reverse] at h

theorem totalTokens_trim_le (history : List Message) (budget : Nat) :
    totalTokens (trim history budget) ≤ budget := by
  rw [trim, totalTokens_reverse]
  exact totalTokens_takeFitting_le budget history.reverse

/-- Nothing that fits is left out: a front of the messages is taken exactly if it fits. The
induction follows the front, since each of its messages fits into what those before it leave. -/
theorem isPrefix_takeFitting_iff {front messages : List Message} (h : front <+: messages)
    (left : Nat) : front <+: takeFitting left messages ↔ totalTokens front ≤ left := by
  constructor
  · intro htaken
    exact Nat.le_trans (totalTokens_le_of_isPrefix htaken)
      (totalTokens_takeFitting_le left messages)
  · intro hfit
    induction front generalizing left messages with
    | nil => exact List.nil_prefix
    | cons m front ih =>
      obtain ⟨rest, rfl⟩ := h
      change m.tokens + totalTokens front ≤ left at hfit
      rw [List.cons_append, takeFitting, if_pos (by omega)]
      apply List.cons_prefix_cons.mpr
      exact ⟨rfl, ih ⟨rest, rfl⟩ _ (by omega)⟩

/-- An end of the history is kept exactly if it fits into the budget. -/
theorem isSuffix_trim_iff (h : kept <:+ history) (budget : Nat) :
    kept <:+ trim history budget ↔ totalTokens kept ≤ budget := by
  have hfront := List.reverse_prefix.mpr h
  rw [trim, ← List.reverse_prefix, List.reverse_reverse, isPrefix_takeFitting_iff hfront,
    totalTokens_reverse]

theorem budget_lt_of_longer (h : kept <:+ history)
    (hlonger : (trim history budget).length < kept.length) : budget < totalTokens kept := by
  apply Nat.lt_of_not_le
  intro hfit
  have hlength := ((isSuffix_trim_iff h budget).mpr hfit).length_le
  omega

theorem trim_mono (h : budget ≤ more) (history : List Message) :
    trim history budget <:+ trim history more := by
  apply (isSuffix_trim_iff (trim_isSuffix history budget) more).mpr
  exact Nat.le_trans (totalTokens_trim_le history budget) h

theorem trim_eq_self (h : totalTokens history ≤ budget) : trim history budget = history := by
  have hkept := (isSuffix_trim_iff (List.suffix_refl history) budget).mpr h
  exact (trim_isSuffix history budget).eq_of_length_le hkept.length_le

/-- The newest message is kept if it fits, and then leaves so much less for those before it. -/
theorem trim_concat (history : List Message) (m : Message) (budget : Nat) :
    trim (history ++ [m]) budget =
      if m.tokens ≤ budget then trim history (budget - m.tokens) ++ [m] else [] := by
  rw [trim, List.reverse_append, List.reverse_singleton, List.singleton_append, takeFitting]
  by_cases hfit : m.tokens ≤ budget
  · rw [if_pos hfit, if_pos hfit, List.reverse_cons, trim]
  · rw [if_neg hfit, if_neg hfit, List.reverse_nil]

/-- What is kept is the longest end of the history that fits into the budget: it fits, and whatever
end is longer, be it by messages that cost nothing, does not. So a larger budget keeps what a
smaller one kept, and trimming what was kept changes nothing. With one message more, that message is
kept behind an end of what was kept before, unless it alone exceeds the budget: then nothing is. -/
theorem trim_longest (history : List Message) (budget : Nat) :
    let kept := trim history budget
    kept <:+ history ∧ totalTokens kept ≤ budget ∧
    (∀ longer, longer <:+ history → kept.length < longer.length → budget < totalTokens longer) ∧
    (∀ more, budget ≤ more → kept <:+ trim history more) ∧
    trim kept budget = kept ∧
    ∀ m : Message,
      (m.tokens ≤ budget →
        ∃ still, still <:+ kept ∧ trim (history ++ [m]) budget = still ++ [m]) ∧
      (budget < m.tokens → trim (history ++ [m]) budget = []) := by
  intro kept
  have hwithin : totalTokens kept ≤ budget := totalTokens_trim_le history budget
  refine ⟨trim_isSuffix history budget, hwithin, ?_, ?_, trim_eq_self hwithin, ?_⟩
  · intro longer hend hlonger
    exact budget_lt_of_longer hend hlonger
  · intro more hmore
    exact trim_mono hmore history
  · intro m
    constructor
    · intro hfit
      refine ⟨trim history (budget - m.tokens), trim_mono (by omega) history, ?_⟩
      rw [trim_concat, if_pos hfit]
    · intro hover
      rw [trim_concat, if_neg (by omega)]

/-- Two messages fit exactly, the older of which costs nothing; the one before them does not fit. A
message more stands behind an end of the two, or pushes out all if it is too long itself. -/
theorem trim_longest_exact :
    let older : List Message := [.user "seven c"]
    let newer : List Message := [.assistant "ok", .user "letters"]
    let history := older ++ newer
    trim history 2 = newer ∧ 2 < totalTokens history ∧ newer <:+ trim history 3 ∧
      trim newer 2 = newer ∧
      (∃ still, still <:+ newer ∧
        trim (history ++ [.assistant "fine"]) 2 = still ++ [.assistant "fine"]) ∧
      trim (history ++ [.assistant "eleven char"]) 2 = [] := by
  intro older newer history
  have hkept : trim history 2 = newer := by decide
  obtain ⟨-, -, hmaximal, hmono, hidempotent, hnext⟩ := trim_longest history 2
  rw [hkept] at hmaximal hmono hidempotent hnext
  exact ⟨hkept, hmaximal history (List.suffix_refl _) (by decide), hmono 3 (by decide),
    hidempotent, (hnext (.assistant "fine")).1 (by decide),
    (hnext (.assistant "eleven char")).2 (by decide)⟩

end History
end FileChat
