import FileChat.Proofs.Entries
import FileChat.Proofs.Text.Parsing
import FileChat.Toml.Document

/-!
# The keys of a document

No table of a document holds a key twice: a table in the making never does, whatever lines are read,
and the values that a reader takes are put together from such tables.
-/
namespace FileChat.Toml

open FileChat.Parser

/-- A value that is no table with a key that stands twice. -/
def Value.Distinct : Value → Prop
  | .table entries => (entries.map (·.1)).Nodup
  | _ => True

mutual
/-- A table in which, and in the tables of which, no key stands twice. -/
inductive Table.Distinct : Table → Prop
  | mk {origin : Origin} {entries : List (String × Node)} :
      (entries.map (·.1)).Nodup → (∀ e ∈ entries, Node.Distinct e.2) →
      Table.Distinct (.mk origin entries)
inductive Node.Distinct : Node → Prop
  | value {v : Value} : v.Distinct → Node.Distinct (.value v)
  | table {t : Table} : Table.Distinct t → Node.Distinct (.table t)
  | tables {last : Table} {earlier : List Table} :
      Table.Distinct last → Node.Distinct (.tables last earlier)
end

namespace Table

variable {t t' : Table} {key : String} {n : Node}

theorem Distinct.keys (h : t.Distinct) : (t.entries.map (·.1)).Nodup := by
  cases h with
  | mk hkeys => exact hkeys

theorem Distinct.nodes (h : t.Distinct) : ∀ e ∈ t.entries, e.2.Distinct := by
  cases h with
  | mk _ hnodes => exact hnodes

theorem distinct_empty (origin : Origin) : (empty origin).Distinct := by
  refine .mk List.nodup_nil fun e he => ?_
  cases he

theorem Distinct.get? (h : t.Distinct) (hn : t.get? key = some n) : n.Distinct :=
  h.nodes _ ((Entries.lookup_eq_some_iff h.keys).mp hn)

theorem Distinct.set (h : t.Distinct) (hn : n.Distinct) : (t.set key n).Distinct := by
  rw [Table.set]
  split
  · refine .mk ?_ fun e he => ?_
    · -- a key is replaced by itself
      have hsame : ((t.entries.map fun e => if e.1 == key then (key, n) else e).map (·.1)) =
          t.entries.map (·.1) := by
        rw [List.map_map]
        refine List.map_congr_left fun e _ => ?_
        by_cases hkey : e.1 = key <;> simp [hkey]
      rw [hsame]
      exact h.keys
    · obtain ⟨e, hmem, rfl⟩ := List.mem_map.mp he
      split
      · exact hn
      · exact h.nodes e hmem
  · next hnot =>
    refine .mk ?_ fun e he => ?_
    · have hnew : key ∉ t.entries.map (·.1) := by
        intro hmem
        obtain ⟨e, he, rfl⟩ := List.mem_map.mp hmem
        exact hnot (List.any_eq_true.mpr ⟨e, he, beq_self_eq_true _⟩)
      rw [List.map_append, List.map_singleton]
      exact h.keys.append (List.nodup_singleton _) (List.disjoint_singleton.mpr hnew)
    · rcases List.mem_append.mp he with hmem | hmem
      · exact h.nodes e hmem
      · cases List.mem_singleton.mp hmem
        exact hn

theorem Distinct.erase (h : t.Distinct) : (t.erase key).Distinct :=
  .mk (h.keys.sublist (List.filter_sublist.map _)) fun e he => h.nodes e (List.mem_filter.mp he).1

/-- A change deep inside a table leaves its keys distinct if the change itself does. -/
theorem Distinct.update {dotted : Bool} {change : Table → Option Table}
    (hchange : ∀ u u', u.Distinct → change u = some u' → u'.Distinct) (path : List String)
    (h : t.Distinct) (hrun : t.update dotted change path = some t') : t'.Distinct := by
  induction path generalizing t t' with
  | nil => exact hchange t t' h hrun
  | cons key path ih =>
    rw [Table.update] at hrun
    split at hrun
    · obtain ⟨u, hu, hset⟩ := Option.bind_eq_some_iff.mp hrun
      cases hset
      exact h.set (.table (ih (distinct_empty _) hu))
    · cases hrun
    · next sub hsub =>
      split at hrun
      · cases hrun
      · obtain ⟨u, hu, hset⟩ := Option.bind_eq_some_iff.mp hrun
        cases hset
        cases h.get? hsub with
        | table hdistinct => exact h.set (.table (ih hdistinct hu))
    · next last earlier hsub =>
      obtain ⟨u, hu, hset⟩ := Option.bind_eq_some_iff.mp hrun
      cases hset
      cases h.get? hsub with
      | tables hdistinct => exact h.set (.tables (ih hdistinct hu))

theorem Distinct.addNew {v : Value} (hv : v.Distinct) (h : t.Distinct)
    (hrun : t.addNew key v = some t') : t'.Distinct := by
  rw [Table.addNew] at hrun
  split at hrun
  · cases hrun
  · cases hrun
    exact h.set (.value hv)

theorem Distinct.addDotted {v : Value} {path : List String} (hv : v.Distinct) (h : t.Distinct)
    (hrun : t.addDotted path v = some t') : t'.Distinct := by
  rw [Table.addDotted] at hrun
  split at hrun
  · cases hrun
  · exact h.addNew hv hrun
  · refine h.update (fun u u' hu hchange => ?_) _ hrun
    split at hchange
    · exact hu.addNew hv hchange
    · cases hchange

theorem entriesToValues_eq (entries : List (String × Node)) :
    entriesToValues entries = entries.map fun e => (e.1, nodeToValue e.2) := by
  induction entries with
  | nil => rfl
  | cons e rest ih => rw [entriesToValues, List.map_cons, ih]

theorem Distinct.toValue (h : t.Distinct) : t.toValue.Distinct := by
  cases h with
  | mk hkeys =>
    change ((entriesToValues _).map (·.1)).Nodup
    rwa [entriesToValues_eq, List.map_map]

end Table

theorem Node.Distinct.nodeToValue {n : Node} (h : n.Distinct) :
    (Table.nodeToValue n).Distinct := by
  cases h with
  | value hv => exact hv
  | table ht => exact ht.toValue
  | tables => trivial

/-! ## Values -/

theorem distinct_addAll {pairs : List (List String × Value)} {start t : Table}
    (hpairs : ∀ p ∈ pairs, p.2.Distinct) (h : start.Distinct)
    (hrun : pairs.foldlM (fun (t : Table) (path, v) => t.addDotted path v) start = some t) :
    t.Distinct := by
  induction pairs generalizing start with
  | nil =>
    cases hrun
    exact h
  | cons p pairs ih =>
    rw [List.foldlM_cons] at hrun
    obtain ⟨u, hu, hrest⟩ := Option.bind_eq_some_iff.mp hrun
    exact ih (fun q hq => hpairs q (List.mem_cons_of_mem _ hq))
      (h.addDotted (hpairs p List.mem_cons_self) hu) hrest

theorem distinct_inlineTable {pairs : List (List String × Value)} {v : Value}
    (hpairs : ∀ p ∈ pairs, p.2.Distinct) (h : inlineTable pairs = some v) : v.Distinct := by
  obtain ⟨t, ht, rfl⟩ := Option.map_eq_some_iff.mp h
  exact (distinct_addAll hpairs (Table.distinct_empty _) ht).toValue

theorem yields_number : Yields number Value.Distinct := by
  refine yields_bind fun date => ?_
  split
  · exact yields_pure trivial
  · refine yields_bind fun float => ?_
    split
    · exact yields_map fun _ => trivial
    · exact (yields_map fun _ => trivial).orElse (yields_map fun _ => trivial)

theorem yields_value (depth : Nat) : Yields (value depth) Value.Distinct := by
  induction depth with
  | zero => exact yields_failure
  | succ depth ih =>
    rw [value]
    refine yields_bind fun c => ?_
    split
    · exact yields_bind fun _ => yields_pure trivial
    · exact yields_bind fun _ => yields_pure trivial
    · refine yields_bind fun _ => yields_bind fun _ => yields_bind fun _ => yields_bind fun _ => ?_
      dsimp only
      split
      · exact yields_bind fun _ => yields_bind fun _ => yields_bind fun _ => yields_pure trivial
      · exact yields_bind fun _ => yields_bind fun _ => yields_pure trivial
    · have hpair : Yields (do
          let path ← key
          char '='
          blanks
          let v ← value depth
          blanks
          pure (path, v)) fun p => p.2.Distinct :=
        yields_bind fun _ => yields_bind fun _ => yields_bind fun _ =>
          ih.bind fun _ hv => yields_bind fun _ => yields_pure hv
      refine yields_bind fun _ => yields_bind fun _ => yields_bind fun limit => ?_
      refine (hpair.separated limit _).bind fun pairs hpairs => ?_
      exact yields_bind fun _ => yields_bind fun _ =>
        yields_ofOption fun v hv => distinct_inlineTable hpairs hv
    · exact yields_bind fun _ => yields_pure trivial
    · exact yields_bind fun _ => yields_pure trivial
    · exact yields_number

/-! ## Lines -/

namespace Builder

/-- A document so far, in the tables of which no key stands twice. -/
structure Distinct (b : Builder) : Prop where
  root : b.root.Distinct
  current : b.current.Distinct

variable {b b' : Builder} {path : List String}

theorem Distinct.close {t : Table} (h : b.Distinct) (hrun : b.close = some t) : t.Distinct := by
  rw [Builder.close] at hrun
  split at hrun
  · cases hrun
    exact h.current
  · refine h.root.update (fun u u' hu hchange => ?_) _ hrun
    split at hchange
    · cases hchange
      split
      · exact hu.set (.tables h.current)
      · exact hu.set (.table h.current)
    · split at hchange
      · cases hchange
        exact hu.set (.tables h.current)
      · cases hchange
    · split at hchange
      · cases hchange
        exact hu.set (.table h.current)
      · cases hchange
    · cases hchange

theorem Distinct.findTable {t t' : Table} (h : t.Distinct)
    (hfound : openTable.findTable path t = some t') : t'.Distinct := by
  induction path generalizing t with
  | nil =>
    cases hfound
    exact h
  | cons key path ih =>
    rw [openTable.findTable] at hfound
    split at hfound
    · next sub hsub =>
      cases h.get? hsub with
      | table hdistinct => exact ih hdistinct hfound
    · next last earlier hsub =>
      cases h.get? hsub with
      | tables hdistinct => exact ih hdistinct hfound
    · cases hfound

theorem Distinct.openTable (h : b.Distinct) (hrun : b.openTable path = some b') : b'.Distinct := by
  obtain ⟨root, hroot, hrun⟩ := Option.bind_eq_some_iff.mp hrun
  have hclosed := h.close hroot
  split at hrun
  · cases hrun
  · next key parents hpath =>
    -- the table that a header takes over is one of the document's own
    have hkept {t : Table}
        (hfound : (openTable.findTable parents.reverse root).bind (·.get? key) = some (.table t)) :
        t.Distinct := by
      obtain ⟨parent, hparent, hnode⟩ := Option.bind_eq_some_iff.mp hfound
      cases (findTable hclosed hparent).get? hnode with
      | table hdistinct => exact hdistinct
    have hplaced {kept root' : Table} (hkept : kept.Distinct)
        (hroot' : root.update false (fun parent => some (parent.erase key)) parents.reverse =
          some root') : Distinct { root := root', current := kept, path } := by
      refine ⟨hclosed.update (fun u u' hu hchange => ?_) _ hroot', hkept⟩
      cases hchange
      exact hu.erase
    dsimp only at hrun
    split at hrun
    · obtain ⟨kept, hfresh, hrun⟩ := Option.bind_eq_some_iff.mp hrun
      obtain ⟨root', hroot', hb'⟩ := Option.bind_eq_some_iff.mp hrun
      cases hfresh
      cases hb'
      exact hplaced (Table.distinct_empty _) hroot'
    · next t hfound =>
      split at hrun
      · obtain ⟨kept, hheader, hrun⟩ := Option.bind_eq_some_iff.mp hrun
        obtain ⟨root', hroot', hb'⟩ := Option.bind_eq_some_iff.mp hrun
        cases hheader
        cases hb'
        exact hplaced (.mk (hkept hfound).keys (hkept hfound).nodes) hroot'
      · cases hrun
    · cases hrun

theorem Distinct.openRepeated (h : b.Distinct) (hrun : b.openRepeated path = some b') :
    b'.Distinct := by
  obtain ⟨root, hroot, hrun⟩ := Option.bind_eq_some_iff.mp hrun
  have hclosed := h.close hroot
  split at hrun
  · cases hrun
  · obtain ⟨root', hroot', hrun⟩ := Option.bind_eq_some_iff.mp hrun
    cases hrun
    refine ⟨hclosed.update (fun u u' hu hchange => ?_) _ hroot', Table.distinct_empty _⟩
    split at hchange
    · cases hchange
      exact hu
    · cases hchange
      exact hu
    · cases hchange

end Builder

theorem yields_line {b : Builder} (h : b.Distinct) : Yields (line b) Builder.Distinct := by
  refine yields_bind fun c => ?_
  split
  · exact yields_bind fun _ => yields_bind fun _ => yields_pure h
  · exact yields_bind fun _ => yields_pure h
  · exact yields_bind fun _ => yields_pure h
  · refine yields_bind fun repeated => ?_
    split
    · exact yields_bind fun path => yields_ofOption fun b' hb' => h.openRepeated hb'
    · exact yields_bind fun path => yields_ofOption fun b' hb' => h.openTable hb'
  · have hpair : Yields pairLine fun p => p.2.Distinct :=
      yields_bind fun _ => yields_bind fun _ => yields_bind fun _ =>
        (yields_value depthLimit).bind fun v hv => yields_bind fun _ => yields_pure hv
    refine hpair.bind fun p hp => ?_
    have hadded : Yields (ofOption (b.current.addDotted p.1 p.2)) Table.Distinct :=
      yields_ofOption fun t ht => h.current.addDotted hp ht
    exact hadded.bind fun t ht => yields_pure ⟨h.root, ht⟩

theorem yields_allLines (limit : Nat) {b : Builder} (h : b.Distinct) :
    Yields (allLines limit b) Builder.Distinct := by
  induction limit generalizing b with
  | zero => exact yields_bind fun _ => yields_pure h
  | succ limit ih =>
    refine yields_bind fun _ => yields_bind fun atEnd => ?_
    split
    · exact yields_pure h
    · exact (yields_line h).bind fun b' hb' => ih hb'

/-- A document is a table, and so is each of its lines that is one: no key stands in it twice. -/
theorem exists_table_of_read {text : String} {v : Value} (h : read text = some v) :
    ∃ entries, v = .table entries ∧ ∀ e ∈ entries, e.2.Distinct := by
  obtain ⟨⟨b, rest⟩, hlines, hrun⟩ := Option.bind_eq_some_iff.mp h
  obtain ⟨root, hroot, hv⟩ := Option.bind_eq_some_iff.mp hrun
  cases hv
  have hstart : Builder.Distinct {} := ⟨Table.distinct_empty _, Table.distinct_empty _⟩
  have hdistinct : root.Distinct := (yields_allLines _ hstart hlines).close hroot
  cases hdistinct with
  | mk _ hnodes =>
    refine ⟨_, rfl, fun e he => ?_⟩
    obtain ⟨⟨key, n⟩, hn, rfl⟩ := List.mem_map.mp (Table.entriesToValues_eq _ ▸ he)
    exact (hnodes _ hn).nodeToValue

end FileChat.Toml
