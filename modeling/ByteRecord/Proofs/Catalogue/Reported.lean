import ByteRecord.Proofs.Catalogue.Patterns

/-! How a catalogue with a bad pattern is refused. The first such pattern decides. What is wrong
with it is reported against its format, unless it escapes as a failure of a conversion. -/
namespace ByteRecord

namespace Catalogue

/-- What a refusal of a hex literal in pieces may have to show: a piece, or what a mapping has under
the place of one. -/
def Shows (content shown : Value) : Prop :=
  (∃ pieces, content.items? = some pieces ∧ shown ∈ pieces) ∨
    ∃ entries place, content = .dict entries ∧ Value.lookup? entries place = some shown

/-- The ways in which a bad pattern fails without an error of a specification. -/
inductive Escapes : Value → Failure → Prop
  | wide (given : Value.lookup? entries (.str "bytes") = some (.str chars))
      (beyond : ∃ c ∈ chars.toList, 255 < c.toNat) : Escapes (.dict entries) .encode
  | bytes (given : Value.lookup? entries (.str "bytes") = some content)
      (other : ∀ text, content ≠ .str text) (refused : Value.bytesOf content = .error raised) :
    Escapes (.dict entries) raised
  /-- There are no pieces, or one cannot be looked up among the digits. -/
  | pieces (absent : Value.lookup? entries (.str "bytes") = none)
      (given : Value.lookup? entries (.str "hex") = some content)
      (unread : ∀ pieces, content.items? = some pieces → ∃ piece ∈ pieces, ¬piece.isHashable) :
    Escapes (.dict entries) .type
  /-- The first half of an open pair is looked up by its place, as if it were a key. -/
  | place (absent : Value.lookup? entries (.str "bytes") = none)
      (given : Value.lookup? entries (.str "hex") = some (.dict own)) : Escapes (.dict entries) .key
  | shown (absent : Value.lookup? entries (.str "bytes") = none)
      (given : Value.lookup? entries (.str "hex") = some content) (among : Shows content piece)
      (long : piece.hasOverlong) : Escapes (.dict entries) .value
  /-- The message would show a number that is too long to be written. -/
  | overlong (long : document.hasOverlong) : Escapes document .value

/-- An error of a specification without a place; or a failure, if that cannot be written. -/
inductive Reports (unwritable : Prop) : Fault → Prop
  | error (error : SpecificationError) (place : error.location = none) :
    Reports unwritable (.specification error)
  | unwritten (long : unwritable) : Reports unwritable (.failure .value)

/-- A pattern is reported, or it escapes. -/
inductive Refuses (document : Value) : Fault → Prop
  | reported (error : SpecificationError) (place : error.location = none) :
    Refuses document (.specification error)
  | escaped (escapes : Escapes document raised) : Refuses document (.failure raised)

theorem Reports.refuses (reports : Reports unwritable fault)
    (escapes : unwritable → Escapes document .value) : Refuses document fault := by
  cases reports with
  | error error place => exact .reported error place
  | unwritten long => exact .escaped (escapes long)

theorem Reports.imp (reports : Reports unwritable fault) (imp : unwritable → other) :
    Reports other fault := by
  cases reports with
  | error error place => exact .error error place
  | unwritten long => exact .unwritten (imp long)

section
variable {fault : Fault}

end

/-- A lexer of pieces has them as its text, and a pair that it has begun starts at one of those that
were read. -/
structure Placed (pieces : List Value) (position : Nat) (lexer : Hex.Lexer) : Prop where
  text : lexer.text = pieces.map Value.plainText
  begun : lexer.pending.isSome → ∃ k < position, lexer.pendingAt = (k : Nat)

/-- What a lexer of so many pieces refuses: a pair that it has begun starts at one of them. -/
inductive Stands (count : Nat) : Hex.LexFault → Prop
  | invalid : Stands count (.error (.invalid shown position))
  | unpaired (within : k < count) :
    Stands count (.error (.unpaired awaited orphan (k : Nat) found))

section
variable {pieces : List Value} {lexer later : Hex.Lexer} {position : Nat}

theorem Placed.refuse (placed : Placed pieces position lexer) (within : position ≤ pieces.length)
    (pending : lexer.pending.isSome) (awaited : Hex.Awaited) (found : Option (String × Int)) :
    Stands pieces.length (lexer.refuse awaited found) := by
  obtain ⟨k, earlier, start⟩ := placed.begun pending
  have here : k < lexer.text.length := by
    rw [placed.text, List.length_map]
    omega
  have stands : lexer.orphan? = some lexer.text[k] := by
    have natural : ¬((k : Int) < 0) := by omega
    simp only [Hex.Lexer.orphan?, start, natural, if_false, Int.toNat_natCast]
    exact List.getElem?_eq_getElem here
  rw [Hex.Lexer.refuse_of_orphan? _ _ stands, start]
  exact .unpaired (by omega)

end

section
variable {content : Value} {pieces : List Value} {entries : List (Value × Value)} {fault : Fault}
  (absent : Value.lookup? entries (.str "bytes") = none)
  (given : Value.lookup? entries (.str "hex") = some content)
  (holds : content.items? = some pieces)
include holds

include absent given

end

/-- A catalogue of one format with one field. -/
def single (name : String) (pattern : Value) : Value :=
  .dict [(.str "formats", .list [.dict [(.str "name", .str name),
    (.str "fields", .list [.dict [(.str "pattern", pattern)]])]])]

end Catalogue
end ByteRecord
