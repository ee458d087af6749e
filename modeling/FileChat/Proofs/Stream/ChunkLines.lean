import FileChat.Proofs.Bytes.Encoding
import FileChat.Proofs.Stream.Framing
import FileChat.Proofs.Text.Trimming
import FileChat.Proofs.Wire.Values

/-!
# Chunk lines

A chunk line is a data line with the object of a chunk. `ChunkLines` relates the lines of a body to
what they carry; the events of such a body are those of its payloads, whatever lines that say
nothing stand in between. Every payload has a chunk object, and any text of that object makes a
line that carries the payload.
-/
namespace FileChat.EventStream

open ByteLines (Framed lineFeed terminated)
open Json (Value)

/-- What one line carries: the content of its first choice, and the usage. -/
structure Payload where
  content : Option String
  usage : Option Usage
  deriving DecidableEq, Repr

/-- A data line with a chunk object that can be read. -/
inductive Carries : Bytes → Payload → Prop
  | chunk {data : List Char} {choices : List (Option String)} {usage : Option Usage} :
      '\n' ∉ data →
      (Value.ofText? (String.ofList (Text.trim data))).bind payload? = some (choices, usage) →
      Carries (Utf8.encode (dataField ++ data)) ⟨choices.head?.bind id, usage⟩

/-- The lines of a body before the end mark, and what they carry. Lines that say nothing may stand
in between. -/
inductive ChunkLines : List Bytes → List Payload → Prop
  | nil : ChunkLines [] []
  | silent {line : Bytes} {lines : List Bytes} {payloads : List Payload} :
      lineFeed ∉ line → Silent line → ChunkLines lines payloads →
      ChunkLines (line :: lines) payloads
  | chunk {line : Bytes} {lines : List Bytes} {p : Payload} {payloads : List Payload} :
      Carries line p → ChunkLines lines payloads →
      ChunkLines (line :: lines) (p :: payloads)

/-- The line of the end mark. -/
def endLine : Bytes := Utf8.encode "data: [DONE]".toList

/-! ## Data lines -/

theorem chomp_data (data : List Char) : chomp (dataField ++ data) = dataField ++ chomp data := by
  have hfield : dataField.reverse.dropWhile (fun c => c == '\n' || c == '\r') =
      dataField.reverse := by
    decide
  rw [chomp, chomp, List.reverse_append, List.dropWhile_append]
  split
  · next hempty =>
    rw [hfield, List.isEmpty_iff.mp hempty, List.reverse_reverse]
    simp
  · rw [List.reverse_append, List.reverse_reverse]

/-- The line ends at the end of a line are white space, which is cut off anyway. -/
theorem trim_chomp (text : List Char) : Text.trim (chomp text) = Text.trim text := by
  have hblank : ∀ c ∈ (text.reverse.takeWhile fun c => c == '\n' || c == '\r').reverse,
      Text.isBlank c = true := by
    intro c hc
    have hend := List.mem_takeWhile_imp (List.mem_reverse.mp hc)
    simp only [Bool.or_eq_true, beq_iff_eq] at hend
    rcases hend with rfl | rfl <;> decide
  have hsplit : text = chomp text ++
      (text.reverse.takeWhile fun c => c == '\n' || c == '\r').reverse := by
    rw [chomp, ← List.reverse_append, List.takeWhile_append_dropWhile, List.reverse_reverse]
  exact ((congrArg Text.trim hsplit).trans (Text.trim_append_blank hblank _)).symm

theorem eventsOfLine_data (data : List Char) :
    eventsOfLine (Utf8.encode (dataField ++ data)) =
      eventsOfData (String.ofList (Text.trim data)) := by
  have hfield : dataField.isPrefixOf (dataField ++ chomp data) = true :=
    List.isPrefixOf_iff_prefix.mpr (List.prefix_append _ _)
  rw [eventsOfLine, Utf8.decodeReplacing_encode, chomp_data]
  simp only [hfield, if_true, List.drop_left, trim_chomp]

theorem lineFeed_not_mem_data {data : List Char} (h : '\n' ∉ data) :
    lineFeed ∉ Utf8.encode (dataField ++ data) := by
  apply Utf8.lineFeed_not_mem_encode
  rw [List.mem_append]
  exact fun hmem => hmem.elim (by decide) h

theorem Carries.is_open {line : Bytes} {p : Payload} (h : Carries line p) : lineFeed ∉ line := by
  cases h with
  | chunk hopen => exact lineFeed_not_mem_data hopen

/-- What a payload says: its content, unless it is empty, and then the end if it has a usage. -/
def Payload.events (p : Payload) : List StreamEvent :=
  ((p.content.filter (· ≠ "")).map .delta).toList ++
    (p.usage.map fun u => .done (some u)).toList

theorem Carries.events {line : Bytes} {p : Payload} (h : Carries line p) :
    eventsOfLine line = p.events := by
  cases h with
  | @chunk data choices usage hopen hpayload =>
    -- the end mark is no JSON text
    have hmark : String.ofList (Text.trim data) ≠ endMark := by
      intro hmark
      rw [hmark] at hpayload
      have hnone : (Value.ofText? endMark).bind payload? = none := by rfl
      rw [hnone] at hpayload
      cases hpayload
    rw [eventsOfLine_data, eventsOfData, if_neg hmark, hpayload]
    rfl

theorem ChunkLines.is_open {lines : List Bytes} {payloads : List Payload}
    (h : ChunkLines lines payloads) : ∀ line ∈ lines, lineFeed ∉ line := by
  induction h with
  | nil => simp
  | silent hopen _ _ ih => exact List.forall_mem_cons.mpr ⟨hopen, ih⟩
  | chunk hcarries _ ih => exact List.forall_mem_cons.mpr ⟨hcarries.is_open, ih⟩

theorem ChunkLines.events {lines : List Bytes} {payloads : List Payload}
    (h : ChunkLines lines payloads) :
    lines.flatMap eventsOfLine = payloads.flatMap Payload.events := by
  induction h with
  | nil => rfl
  | silent _ hsilent _ ih =>
    rw [List.flatMap_cons, eventsOfLine_of_not_data hsilent.not_data, List.nil_append, ih]
  | chunk hcarries _ ih => rw [List.flatMap_cons, List.flatMap_cons, hcarries.events, ih]

theorem eventsOfLine_endLine : eventsOfLine endLine = [.done none] := by rfl

/-- What is fed of a body that reaches its end mark. -/
theorem feed_chunkLines {bytes after : Bytes} {lines : List Bytes} {payloads : List Payload}
    (h : ChunkLines lines payloads) (hbytes : bytes = terminated (lines ++ [endLine]) ++ after) :
    ∃ more, (feed [] bytes).1 = payloads.flatMap Payload.events ++ .done none :: more := by
  have hlines : Framed (terminated (lines ++ [endLine])) (lines ++ [endLine]) [] := by
    refine ⟨(List.append_nil _).symm, ?_, List.not_mem_nil⟩
    rw [List.forall_mem_append]
    exact ⟨h.is_open, by decide⟩
  have hframed := hlines.append (b := after) (ByteLines.framed_split after)
  refine ⟨(ByteLines.split after).1.flatMap eventsOfLine, ?_⟩
  rw [hbytes, feed_nil_of_framed hframed, List.flatMap_append, List.flatMap_append, h.events]
  simp only [List.flatMap_cons, List.flatMap_nil, List.append_nil, eventsOfLine_endLine,
    List.append_assoc]
  rfl

/-! ## Chunk objects -/

/-- The choices of a chunk with this content. -/
def choicesJson (content : Option String) : Value :=
  .array [.object [("delta", .object (Json.member "content" (content.map .string)))]]

/-- The object of a chunk, with the members that it has. -/
def chunkJson (p : Payload) : Value :=
  .object (("choices", choicesJson p.content) :: Json.member "usage" (p.usage.map Wire.toJson))

theorem list?_choicesJson (content : Option String) :
    Json.list? deltaText? (choicesJson content) = some [content] := by
  cases content <;> rfl

theorem payload?_chunkJson (p : Payload) :
    payload? (chunkJson p) = some ([p.content], p.usage) := by
  obtain ⟨content, usage⟩ := p
  change (Json.slots? ["choices", "usage"] (chunkJson ⟨content, usage⟩)).bind _ = _
  cases usage with
  | none =>
    have hslots : Json.slots? ["choices", "usage"] (chunkJson ⟨content, none⟩) =
        some [.given (choicesJson content), .absent] := by
      refine (Json.slots?_object _ ?_).trans rfl
      show ["choices"].Nodup
      decide
    rw [hslots, Option.bind_some]
    exact Json.orElse_bind (list?_choicesJson content)
  | some u =>
    refine (Json.fields_bind [choicesJson content, Wire.toJson u] (by decide) rfl).trans ?_
    refine (Json.orElse_bind (list?_choicesJson content)).trans ?_
    exact Json.orElse_bind (Wire.orNull_usage u)

/-- The text of a chunk object, after the field name and a blank, is a chunk line. -/
theorem carries_of_writes {p : Payload} {t : List Char} (h : Json.Writes (chunkJson p) t) :
    Carries (Utf8.encode (dataField ++ ' ' :: t)) p := by
  have hopen : '\n' ∉ ' ' :: t := by
    rw [List.mem_cons]
    rintro (hblank | hmem)
    · exact absurd hblank (by decide)
    · exact absurd (h.printable _ hmem) (by decide)
  have htrim : Text.trim (' ' :: t) = t := by
    obtain ⟨hfirst, hlast⟩ := h.braces
    rw [Text.trim_cons_of_isBlank (by decide)]
    apply Text.trim_eq_self
    · rw [hfirst]
      rintro c ⟨⟩
      decide
    · rw [hlast]
      rintro c ⟨⟩
      decide
  have hpayload : (Value.ofText? (String.ofList (Text.trim (' ' :: t)))).bind payload? =
      some ([p.content], p.usage) := by
    rw [htrim, Json.ofText?_of_writes h, Option.bind_some, payload?_chunkJson]
  exact .chunk hopen hpayload

theorem exact_chunkJson (p : Payload) : (chunkJson p).Exact := by
  obtain ⟨content, usage⟩ := p
  have hchoices : (choicesJson content).Exact := by
    cases content with
    | none => exact ⟨⟨trivial, trivial⟩, trivial⟩
    | some text => exact ⟨⟨⟨trivial, trivial⟩, trivial⟩, trivial⟩
  cases usage with
  | none => exact ⟨hchoices, trivial⟩
  | some u => exact ⟨hchoices, (Wire.kept_usage u).exact, trivial⟩

/-- The line that the writer's text of a chunk object makes. -/
def chunkLine (p : Payload) : Bytes := Utf8.encode (dataField ++ ' ' :: (chunkJson p).text)

theorem carries_chunkLine (p : Payload) : Carries (chunkLine p) p :=
  carries_of_writes (Json.writes_text (exact_chunkJson p))

end FileChat.EventStream
