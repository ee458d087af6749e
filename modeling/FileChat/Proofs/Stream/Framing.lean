import FileChat.Backend.EventStream
import FileChat.Proofs.Bytes.Characters
import FileChat.Proofs.Bytes.Lines
import Mathlib.Logic.Relation

/-!
# The framing of event streams

The events of a stream are those of its whole lines, each read by itself, and what waits is what
stands after the last line feed. So the cuts between pieces leave no trace, whether they fall into
a character, a line end or a field name. `Revision` rewrites a stream where its framing allows it:
a carriage return more before a line feed, or a line more that carries no data. No number of
revisions is noticed.
-/
namespace FileChat.EventStream

open ByteLines (Framed lineFeed carriageReturn terminated AtBoundary)

/-- The bytes with which a line begins that carries data. -/
def dataBytes : Bytes := Utf8.encode dataField

/-- The lines that say nothing: empty ones, comments, and other fields. -/
def Silent (line : Bytes) : Prop :=
  line = [] ∨ line.head? = some ':'.toUInt8 ∨ ¬ dataBytes <+: line

/-- One change to a stream that its framing allows. -/
inductive Revision : Bytes → Bytes → Prop
  /-- A line feed gets a carriage return in front of it. -/
  | returned (before after : Bytes) :
      Revision (before ++ lineFeed :: after) (before ++ carriageReturn :: lineFeed :: after)
  /-- A line that says nothing is put in where a line may begin. -/
  | inserted {before line : Bytes} (after : Bytes) :
      AtBoundary before → lineFeed ∉ line → Silent line →
      Revision (before ++ after) (before ++ (line ++ lineFeed :: after))

/-! ## Pieces -/

theorem feed_of_framed {waiting piece rest : Bytes} {lines : List Bytes}
    (h : Framed (waiting ++ piece) lines rest) :
    feed waiting piece = (lines.flatMap eventsOfLine, rest) := by
  rw [feed, h.split_eq]

/-- What waits before the next piece holds no line feed, and that is all the induction needs. -/
theorem feedAll_of_framed {waiting rest : Bytes} {pieces lines : List Bytes}
    (hwaiting : lineFeed ∉ waiting) (h : Framed (waiting ++ pieces.flatten) lines rest) :
    feedAll waiting pieces = (lines.flatMap eventsOfLine, rest) := by
  induction pieces generalizing waiting lines with
  | nil =>
    rw [List.flatten_nil, List.append_nil] at h
    obtain ⟨rfl, rfl⟩ := h.unique (ByteLines.framed_of_not_mem hwaiting)
    rfl
  | cons piece pieces ih =>
    have hpiece := ByteLines.framed_split (waiting ++ piece)
    have hmore := ByteLines.framed_split ((ByteLines.split (waiting ++ piece)).2 ++ pieces.flatten)
    have hall := hpiece.append hmore
    rw [List.append_assoc, ← List.flatten_cons] at hall
    obtain ⟨rfl, rfl⟩ := h.unique hall
    rw [feedAll, feed_of_framed hpiece]
    simp only [ih hpiece.rest_open hmore, List.flatMap_append]

theorem feed_nil_of_framed {bytes rest : Bytes} {lines : List Bytes} (h : Framed bytes lines rest) :
    feed [] bytes = (lines.flatMap eventsOfLine, rest) := feed_of_framed h

theorem feedAll_nil_of_framed {rest : Bytes} {pieces lines : List Bytes}
    (h : Framed pieces.flatten lines rest) :
    feedAll [] pieces = (lines.flatMap eventsOfLine, rest) :=
  feedAll_of_framed List.not_mem_nil h

theorem feedAll_eq_feed (pieces : List Bytes) : feedAll [] pieces = feed [] pieces.flatten := by
  have hframed := ByteLines.framed_split pieces.flatten
  rw [feedAll_nil_of_framed hframed, feed_nil_of_framed hframed]

/-! ## Lines -/

theorem chomp_append_return (line : List Char) : chomp (line ++ ['\r']) = chomp line := by
  rw [chomp, chomp, List.reverse_append]
  rfl

theorem chomp_isPrefix (line : List Char) : chomp line <+: line := by
  have hend := List.dropWhile_suffix (l := line.reverse) fun c => c == '\n' || c == '\r'
  have hfront := List.reverse_prefix.mpr hend
  rwa [List.reverse_reverse] at hfront

/-- A carriage return at the end of a line is not noticed. -/
theorem eventsOfLine_append_return (line : Bytes) :
    eventsOfLine (line ++ [carriageReturn]) = eventsOfLine line := by
  have hdecode : Utf8.decodeReplacing (line ++ [carriageReturn]) =
      Utf8.decodeReplacing line ++ ['\r'] := Utf8.decodeReplacing_append_single line (by decide)
  rw [eventsOfLine, eventsOfLine, hdecode, chomp_append_return]

theorem isSingle_of_mem_dataField {c : Char} (h : c ∈ dataField) : Utf8.IsSingle c := by
  have hfield : dataField = ['d', 'a', 't', 'a', ':'] := by decide
  rw [hfield] at h
  simp only [List.mem_cons, List.not_mem_nil, or_false] at h
  rcases h with rfl | rfl | rfl | rfl | rfl
  all_goals exact ⟨by decide, by decide⟩

theorem dataBytes_eq_map : dataBytes = dataField.map fun c => UInt8.ofNat c.toNat := by decide

/-- A line has events only if its bytes begin as those of a data line do. -/
theorem eventsOfLine_of_not_data {line : Bytes} (h : ¬ dataBytes <+: line) :
    eventsOfLine line = [] := by
  rw [eventsOfLine]
  refine if_neg fun hfield => h ?_
  have hchomped := List.isPrefixOf_iff_prefix.mp hfield
  have hdecoded := hchomped.trans (chomp_isPrefix _)
  rw [dataBytes_eq_map]
  exact Utf8.single_bytes_of_decodeReplacing (fun _ hc => isSingle_of_mem_dataField hc) hdecoded

theorem Silent.not_data {line : Bytes} (h : Silent line) : ¬ dataBytes <+: line := by
  rcases h with rfl | hcolon | hno
  · exact fun hdata => absurd (List.prefix_nil.mp hdata) (by decide)
  · rintro ⟨more, rfl⟩
    have hfirst : (dataBytes ++ more).head? = some 'd'.toUInt8 := rfl
    exact absurd (hfirst.symm.trans hcolon) (by decide)
  · exact hno

/-! ## Revisions -/

/-- A line put in where one may begin brings its own events in their place, and nothing else. -/
theorem feed_insert_line {before line : Bytes} (hboundary : AtBoundary before)
    (hopen : lineFeed ∉ line) (after : Bytes) :
    ∃ events more rest, feed [] (before ++ after) = (events ++ more, rest) ∧
      feed [] (before ++ (line ++ lineFeed :: after)) =
        (events ++ (eventsOfLine line ++ more), rest) := by
  have hbefore := hboundary.framed
  have hafter := ByteLines.framed_split after
  have hplain := feed_nil_of_framed (hbefore.append (b := after) hafter)
  have hmore := feed_nil_of_framed
    (hbefore.append (b := line ++ lineFeed :: after) (hafter.line hopen))
  rw [List.flatMap_append] at hplain hmore
  exact ⟨_, _, _, hplain, hmore⟩

/-- The carriage return ends up in the line that the line feed ends, where it is not noticed. -/
theorem feed_insert_return (before after : Bytes) :
    feed [] (before ++ carriageReturn :: lineFeed :: after) =
      feed [] (before ++ lineFeed :: after) := by
  have hbefore := ByteLines.framed_split before
  have hafter := ByteLines.framed_split after
  generalize (ByteLines.split before).1 = lines at hbefore
  generalize (ByteLines.split before).2 = line at hbefore
  have hopen : lineFeed ∉ line ++ [carriageReturn] := by
    rw [List.mem_append]
    exact fun h => h.elim hbefore.rest_open (by decide)
  have hplain := hbefore.append (hafter.line hbefore.rest_open)
  have hreturn := hbefore.append (b := carriageReturn :: lineFeed :: after)
    (by simpa using hafter.line hopen)
  rw [feed_nil_of_framed hplain, feed_nil_of_framed hreturn]
  simp only [List.flatMap_append, List.flatMap_cons, eventsOfLine_append_return]

theorem feed_of_revision {bytes bytes' : Bytes} (h : Revision bytes bytes') :
    feed [] bytes' = feed [] bytes := by
  cases h with
  | returned before after => exact feed_insert_return before after
  | inserted after hboundary hopen hsilent =>
    obtain ⟨events, more, rest, hplain, hmore⟩ := feed_insert_line hboundary hopen after
    rw [hplain, hmore, eventsOfLine_of_not_data hsilent.not_data, List.nil_append]

theorem feed_of_revisions {bytes bytes' : Bytes}
    (h : Relation.ReflTransGen Revision bytes bytes') : feed [] bytes' = feed [] bytes := by
  induction h with
  | refl => rfl
  | tail _ hstep ih => exact (feed_of_revision hstep).trans ih

/-- However a stream is cut into pieces, its events are those of its whole lines in order, and what
waits in the end is what stands after the last line feed. Neither changes when line feeds become
carriage returns with line feeds, or lines that say nothing are put in between the others. -/
theorem feedAll_framing (pieces : List Bytes) :
    feedAll [] pieces = feed [] pieces.flatten ∧
      (∃ lines rest, Framed pieces.flatten lines rest ∧
        feedAll [] pieces = (lines.flatMap eventsOfLine, rest)) ∧
      ∀ pieces' : List Bytes, Relation.ReflTransGen Revision pieces.flatten pieces'.flatten →
        feedAll [] pieces' = feedAll [] pieces := by
  have hframed := ByteLines.framed_split pieces.flatten
  refine ⟨feedAll_eq_feed pieces, ⟨_, _, hframed, feedAll_nil_of_framed hframed⟩, ?_⟩
  intro pieces' h
  rw [feedAll_eq_feed, feedAll_eq_feed]
  exact feed_of_revisions h

/-- A reply cut in its end mark, and the same with a comment and a carriage return more. -/
theorem feedAll_framing_comment :
    Relation.ReflTransGen Revision
      [Utf8.encode "data: [DO".toList, Utf8.encode "NE]\n".toList].flatten
      [Utf8.encode ": alive\ndata".toList, Utf8.encode ": [DONE]\r\n".toList].flatten ∧
    feedAll [] [Utf8.encode ": alive\ndata".toList, Utf8.encode ": [DONE]\r\n".toList] =
      feedAll [] [Utf8.encode "data: [DO".toList, Utf8.encode "NE]\n".toList] ∧
    feedAll [] [Utf8.encode "data: [DO".toList, Utf8.encode "NE]\n".toList] =
      ([.done none], []) := by
  have hreturn := Revision.returned (Utf8.encode "data: [DONE]".toList) []
  have hopen : lineFeed ∉ Utf8.encode ": alive".toList := by decide
  have hsilent : Silent (Utf8.encode ": alive".toList) := .inr (.inl (by decide))
  have hcomment := Revision.inserted (Utf8.encode "data: [DONE]\r\n".toList)
    (Or.inl rfl : AtBoundary []) hopen hsilent
  have hboth := (Relation.ReflTransGen.single hreturn).tail hcomment
  exact ⟨hboth, (feedAll_framing _).2.2 _ hboth, by decide +kernel⟩

end FileChat.EventStream
