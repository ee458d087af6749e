import FileChat.Json.Record
import FileChat.Proofs.Entries

/-!
# What is found in records

An object whose keys differ has a place for each field of a record, wherever its member stands. A
number of 32 bits is read as itself.
-/
namespace FileChat.Json

theorem slots?_object {names : List String} (members : List (String × Value))
    (h : (members.map (·.1)).Nodup) :
    slots? names (.object members) = some (names.map fun name =>
      match members.lookup name with
      | some v => .given v
      | none => .absent) := by
  have hknown : ((members.filter fun m => names.contains m.1).map (·.1)).Nodup :=
    h.sublist (List.filter_sublist.map _)
  rw [slots?]
  exact if_pos hknown

/-- An object with the members of a record and no others gives the fields in their order. -/
theorem slots?_members (members : List (String × Value)) (h : (members.map (·.1)).Nodup) :
    slots? (members.map (·.1)) (.object members) = some (members.map fun m => .given m.2) := by
  rw [slots?_object members h, List.map_map]
  refine congrArg some (List.map_congr_left fun m hm => ?_)
  have hlookup : members.lookup m.1 = some m.2 := (Entries.lookup_eq_some_iff h).mpr hm
  rw [Function.comp_apply, hlookup]

/-- A reader of a record goes on with what it has read of a field. -/
theorem required_bind {α β : Type} {read : Value → Option α} {v : Value} {a : α}
    {f : α → Option β} (h : read v = some a) : ((Slot.given v).required read >>= f) = f a := by
  change (read v).bind f = f a
  rw [h, Option.bind_some]

theorem orElse_bind {α β : Type} {default a : α} {read : Value → Option α} {v : Value}
    {f : α → Option β} (h : read v = some a) :
    ((Slot.given v).orElse default read >>= f) = f a := by
  change (read v).bind f = f a
  rw [h, Option.bind_some]

/-- A reader of a record goes on with the fields of an object that has just these members. -/
theorem fields_bind {β : Type} {names : List String} {f : List Slot → Option β}
    (values : List Value) (h : names.Nodup) (hlength : names.length = values.length) :
    (slots? names (.object (names.zip values)) >>= f) = f (values.map .given) := by
  have hnames : (names.zip values).map (·.1) = names := List.map_fst_zip hlength.le
  have hvalues : (names.zip values).map (·.2) = values := List.map_snd_zip hlength.ge
  have hslots := slots?_members (names.zip values) (by rwa [hnames])
  have hgiven : (names.zip values).map (fun m => Slot.given m.2) = values.map .given := by
    conv_rhs => rw [← hvalues]
    rw [List.map_map]
    rfl
  rw [hnames, hgiven] at hslots
  change (slots? names _).bind f = _
  rw [hslots, Option.bind_some]

theorem string?_string (s : String) : string? (.string s) = some s := rfl

theorem bool?_bool (b : Bool) : bool? (.bool b) = some b := rfl

theorem natBelow?_ofNat {limit n : Nat} (h : n < limit) : natBelow? limit (ofNat n) = some n := by
  have hfits : (0 : Int) ≤ n ∧ (n : Int) < limit := by omega
  rw [ofNat, natBelow?, if_pos hfits, Int.toNat_natCast]

theorem size?_ofNat {n : Nat} (h : n < UInt64.size) : size? (ofNat n) = some n :=
  natBelow?_ofNat h

theorem lt_of_size? {v : Value} {n : Nat} (h : size? v = some n) : n < UInt64.size := by
  cases v with
  | integer k =>
    change (if 0 ≤ k ∧ k < (UInt64.size : Int) then some k.toNat else none) = some n at h
    split at h
    · next hfits =>
      cases h
      omega
    · cases h
  | _ => cases h

theorem lt_of_required_size? {slot : Slot} {n : Nat} (h : slot.required size? = some n) :
    n < UInt64.size := by
  cases slot with
  | given v => exact lt_of_size? h
  | absent | beyond => cases h

theorem word32?_ofNat (n : UInt32) : word32? (ofNat n.toNat) = some n := by
  rw [word32?, natBelow?_ofNat n.toNat_lt_size, Option.map_some]
  exact congrArg some UInt32.ofNat_toNat

end FileChat.Json
