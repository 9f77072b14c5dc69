import ByteRecord.Hex.Lexer

/-! The steps of the lexer of hex literals: a character opens a pair, completes one, or is refused. -/
namespace ByteRecord.Hex

theorem single?_toString (c : Char) : Lexer.single? c.toString = some c := by
  rw [Lexer.single?, Char.toString, String.toList_singleton]

theorem digits_lt (byte : UInt8) : byte.toNat / 16 < 16 ∧ byte.toNat % 16 < 16 := by
  have small := byte.toNat_lt
  omega

theorem Lexer.feed_opening (lexer : Lexer) (position : Int) (idle : lexer.pending = none)
    (mark : isBlank c = false) (opens : opening? c = some awaited) :
    lexer.feed c.toString position =
      .ok { lexer with pending := some awaited, pendingAt := position } := by
  rw [feed, single?_toString]
  simp [feedPiece, idle, mark, opens]

theorem Lexer.feed_completing (lexer : Lexer) (position : Int) (open_pair : lexer.pending = some awaited)
    (completes : completed? awaited c = some token) :
    lexer.feed c.toString position =
      .ok { lexer with pending := none, tokens := lexer.tokens ++ [token] } := by
  rw [feed, single?_toString]
  simp [feedPiece, open_pair, completes]

/-- A character that begins nothing is refused where it stands first. -/
theorem tokenize_invalid (mark : Lexer.isBlank c = false) (nothing : Lexer.opening? c = none)
    (rest : List Char) : tokenize (c :: rest) = .error (.error (.invalid c.toString 0)) := by
  have refused : (Lexer.ofText (c :: rest)).feed c.toString (0 : Nat) =
      .error (.error (.invalid c.toString 0)) := by
    rw [Lexer.feed, single?_toString]
    simp [Lexer.feedPiece, Lexer.ofText, Lexer.ofPieces, mark, nothing]
  have stopped : (Lexer.ofText (c :: rest)).feedAll 0 (Lexer.ofText (c :: rest)).text =
      (.error (.error (.invalid c.toString 0)), Lexer.ofText (c :: rest)) := by
    change (Lexer.ofText (c :: rest)).feedAll 0 (c.toString :: rest.map Char.toString) = _
    rw [Lexer.feedAll, refused]
  rw [tokenize, Lexer.run, stopped]

end ByteRecord.Hex
