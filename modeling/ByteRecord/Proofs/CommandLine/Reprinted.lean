import ByteRecord.CommandLine.Run
import ByteRecord.Proofs.Hex.Spaced
import ByteRecord.Proofs.Pattern.ByteValue

/-! What is displayed can be read again: tokens, patterns, bytes, and the line that `hex` prints. -/
namespace ByteRecord

namespace Pattern

theorem text_of_tokens (pieces : List Hex.Token) (form : Form) :
    text ⟨pieces.map Matcher.ofToken, form⟩ =
      "[" ++ ", ".intercalate ((pieces.map Hex.Token.text).map String.ofList) ++ "]" := by
  have texts : (pieces.map Matcher.ofToken).map Matcher.text =
      (pieces.map Hex.Token.text).map String.ofList := by
    rw [List.map_map, List.map_map]
    exact List.map_congr_left fun piece _ => Matcher.text_ofToken piece
  rw [text, texts]

/-- A pattern is read back from its text without brackets and commas. -/
theorem ofFreeHex_bare_text (read : ofFreeHex digits = .ok pattern) :
    ofFreeHex (Hex.bare pattern.text) = .ok pattern := by
  obtain ⟨pieces, -, few, rfl⟩ := ofFreeHex_ok_iff.mp read
  have free : ∀ word ∈ pieces.map Hex.Token.text, ∀ c ∈ word, c ∉ ['[', ']', ','] := by
    intro word among
    obtain ⟨piece, -, rfl⟩ := List.mem_map.mp among
    exact piece.text_free
  refine ofFreeHex_ok_iff.mpr ⟨pieces, ?_, few, rfl⟩
  rw [text_of_tokens, Hex.bare_bracketed free]
  exact Hex.tokenize_spaced_texts (.intercalate (by simp) _)

theorem ofFreeHex_of_tokenize {data : List UInt8}
    (read : Hex.tokenize digits = .ok (data.map .exact)) :
    ∃ pattern, ofFreeHex digits = .ok pattern ∧ pattern.toBytes = .ok data := by
  refine ⟨_, ofFreeHex_ok_iff.mpr ⟨_, read, ?_, rfl⟩, toBytes_ok_iff.mpr ?_⟩
  · have none_open : Hex.Token.openRange ∉ data.map .exact := by simp
    rw [List.count_eq_zero.mpr none_open]
    exact Nat.zero_le 1
  · rw [List.map_map]
    rfl

theorem hexLiteral_of_tokenize {data : List UInt8}
    (read : Hex.tokenize digits = .ok (data.map .exact)) : hexLiteral digits = .ok data := by
  obtain ⟨pattern, made, valued⟩ := ofFreeHex_of_tokenize read
  exact bind_ok_iff.mpr ⟨pattern, made, valued⟩

end Pattern

namespace CommandLine
variable {directory : Directory} {literal : String} {report : Report}

theorem runHex_pattern (read : Pattern.ofFreeHex literal.toList = .ok pattern) :
    runHex literal true = .ok (.success [pattern.text]) := by
  rw [runHex, read]
  rfl

theorem runHex_bytes (read : Pattern.ofFreeHex literal.toList = .ok pattern)
    (valued : pattern.toBytes = .ok data) :
    runHex literal false = .ok (.success [Hex.lowerText " " data]) := by
  rw [runHex, read]
  change reported (pattern.toBytes >>= _) = _
  rw [valued]
  rfl

theorem of_reported {result : Except Fault Report} (ran : reported result = .ok report)
    (success : report.code = 0) : result = .ok report := by
  unfold reported at ran
  split at ran
  · cases ran
    cases success
  · exact ran

/-- Where `hex` succeeds, the literal is a pattern; without its option, one with a byte value. -/
theorem of_runHex {asPattern : Bool} (ran : runHex literal asPattern = .ok report)
    (success : report.code = 0) : ∃ pattern, Pattern.ofFreeHex literal.toList = .ok pattern ∧
      (asPattern = false → ∃ data, pattern.toBytes = .ok data) := by
  obtain ⟨pattern, read, later⟩ := bind_ok_iff.mp (of_reported ran success)
  refine ⟨pattern, read, ?_⟩
  rintro rfl
  obtain ⟨data, valued, -⟩ := bind_ok_iff.mp later
  exact ⟨data, valued⟩

/-- The line of bytes is a literal of the same bytes, and no option. -/
theorem runHex_again (ran : runHex literal false = .ok report) (success : report.code = 0) :
    ∃ line, report = .success [line] ∧
      Invocation.ofArguments ["hex", line] = .ok ⟨false, some (.hex line false)⟩ ∧
      runHex line false = .ok report := by
  obtain ⟨pattern, read, literal⟩ := of_runHex ran success
  obtain ⟨data, valued⟩ := literal rfl
  obtain rfl := Except.ok.inj (ran.symm.trans (runHex_bytes read valued))
  have lexed := Hex.tokenize_lowerText " " (by simp) data
  obtain ⟨again, read, valued⟩ := Pattern.ofFreeHex_of_tokenize lexed
  refine ⟨_, rfl, Invocation.ofArguments_hex fun dash => ?_, runHex_bytes read valued⟩
  obtain ⟨rest, same⟩ := List.head?_eq_some_iff.mp dash
  rw [same, Hex.tokenize_invalid rfl rfl] at lexed
  cases lexed

/-- The line of a pattern is no literal as it stands, but without brackets and commas it is one of
the same pattern. -/
theorem runHex_pattern_again (ran : runHex literal true = .ok report) (success : report.code = 0) :
    ∃ line, report = .success [line] ∧
      (∀ asPattern, ∃ message, runHex line asPattern = .ok (.failure message)) ∧
      runHex (String.ofList (Hex.bare line)) true = .ok report := by
  obtain ⟨pattern, read, -⟩ := of_runHex ran success
  obtain rfl := Except.ok.inj (ran.symm.trans (runHex_pattern read))
  refine ⟨_, rfl, fun asPattern => ?_, runHex_pattern ?_⟩
  · have opening : pattern.text.toList =
        '[' :: (", ".intercalate (pattern.matchers.map Matcher.text) ++ "]").toList := by
      rw [Pattern.text, String.append_assoc, String.toList_append]
      rfl
    rw [runHex, Pattern.ofFreeHex, opening, Hex.tokenize_invalid rfl rfl]
    exact ⟨_, rfl⟩
  · rw [String.toList_ofList]
    exact Pattern.ofFreeHex_bare_text read

/-- Tokens are read back from their texts with any blanks between them; a pattern is read back from
its text without brackets and commas; bytes are read back from their digits, with or without spaces,
and from their display. What `hex` prints for a literal of bytes it prints again when it is given
that line; what it prints for a pattern, when it is given the line without brackets and commas. -/
theorem displayed_read_again :
    (∀ (tokens : List Hex.Token) (text : List Char),
      Hex.Spaced (tokens.map Hex.Token.text) text → Hex.tokenize text = .ok tokens) ∧
    (∀ (digits : List Char) (pattern : Pattern), Pattern.ofFreeHex digits = .ok pattern →
      Pattern.ofFreeHex (Hex.bare pattern.text) = .ok pattern) ∧
    (∀ data : List UInt8, Pattern.hexLiteral (Hex.lowerText "" data).toList = .ok data ∧
      Pattern.hexLiteral (Hex.lowerText " " data).toList = .ok data ∧
      Pattern.hexLiteral (Hex.bare (Hex.formatBytes data)) = .ok data) ∧
    (∀ {σ : Type} (interpreter : Interpreter σ) (directory : Directory) (literal : String)
        (state after : σ) (report : Report),
      (run interpreter directory (.hex literal false)).run state = (.ok report, after) →
      report.code = 0 →
      ∃ line, report = .success [line] ∧
        Invocation.ofArguments ["hex", line] = .ok ⟨false, some (.hex line false)⟩ ∧
        (run interpreter directory (.hex line false)).run state = (.ok report, state)) ∧
    ∀ {σ : Type} (interpreter : Interpreter σ) (directory : Directory) (literal : String)
        (state after : σ) (report : Report),
      (run interpreter directory (.hex literal true)).run state = (.ok report, after) →
      report.code = 0 →
      ∃ line, report = .success [line] ∧
        (∀ asPattern, ∃ message,
          (run interpreter directory (.hex line asPattern)).run state =
            (.ok (.failure message), state)) ∧
        (run interpreter directory (.hex (String.ofList (Hex.bare line)) true)).run state =
          (.ok report, state) := by
  refine ⟨fun tokens text => Hex.tokenize_spaced_texts,
    fun digits pattern => Pattern.ofFreeHex_bare_text, fun data => ⟨?_, ?_, ?_⟩, ?_, ?_⟩
  · exact Pattern.hexLiteral_of_tokenize (Hex.tokenize_lowerText _ (by simp) data)
  · exact Pattern.hexLiteral_of_tokenize (Hex.tokenize_lowerText _ (by simp) data)
  · exact Pattern.hexLiteral_of_tokenize (Hex.tokenize_formatBytes data)
  · intro σ interpreter directory literal state after report ran succeeded
    obtain ⟨line, shown, read, again⟩ := runHex_again (run_lift_ok_iff.mp ran).1 succeeded
    exact ⟨line, shown, read, run_lift_ok_iff.mpr ⟨again, rfl⟩⟩
  · intro σ interpreter directory literal state after report ran succeeded
    obtain ⟨line, shown, refused, again⟩ :=
      runHex_pattern_again (run_lift_ok_iff.mp ran).1 succeeded
    refine ⟨line, shown, fun asPattern => ?_, run_lift_ok_iff.mpr ⟨again, rfl⟩⟩
    obtain ⟨message, failed⟩ := refused asPattern
    exact ⟨message, run_lift_ok_iff.mpr ⟨failed, rfl⟩⟩

/-- Three tokens with and without blanks, and the lines of a literal in either form. -/
theorem displayed_read_again_literal :
    Hex.tokenize "48\t__..".toList = .ok [.exact 0x48, .wildcard, .openRange] ∧
    Pattern.ofFreeHex (Hex.bare "[48, __]") = .ok ⟨[.exact 0x48, .wildcard], .hex⟩ ∧
    (∃ line, Report.success ["48 4a"] = .success [line] ∧
      Invocation.ofArguments ["hex", line] = .ok ⟨false, some (.hex line false)⟩ ∧
      (run .standard (.ofFiles []) (.hex line false)).run (fun _ => 0) =
        (.ok (.success ["48 4a"]), fun _ => 0)) ∧
    ∃ line, Report.success ["[48, ..]"] = .success [line] ∧
      (∀ asPattern, ∃ message,
        (run .standard (.ofFiles []) (.hex line asPattern)).run (fun _ => 0) =
          (.ok (.failure message), fun _ => 0)) ∧
      (run .standard (.ofFiles []) (.hex (String.ofList (Hex.bare line)) true)).run (fun _ => 0) =
        (.ok (.success ["[48, ..]"]), fun _ => 0) := by
  obtain ⟨tokens, patterns, -, bytes, displayed⟩ := displayed_read_again
  have spaced : Hex.Spaced ([.exact 0x48, .wildcard, .openRange].map Hex.Token.text)
      "48\t__..".toList :=
    .word ['4', '8'] (.blank (by decide) (.word ['_', '_'] (.word ['.', '.'] .nil)))
  have pattern : Pattern.ofFreeHex "48__".toList = .ok ⟨[.exact 0x48, .wildcard], .hex⟩ := rfl
  have shown : Pattern.text ⟨[.exact 0x48, .wildcard], .hex⟩ = "[48, __]" := rfl
  have literal : (run .standard (.ofFiles []) (.hex "484A" false)).run (fun _ => 0) =
      (.ok (.success ["48 4a"]), fun _ => 0) := rfl
  have ranged : (run .standard (.ofFiles []) (.hex "48.." true)).run (fun _ => 0) =
      (.ok (.success ["[48, ..]"]), fun _ => 0) := rfl
  exact ⟨tokens _ _ spaced, shown ▸ patterns _ _ pattern, bytes _ _ _ _ _ _ literal rfl,
    displayed _ _ _ _ _ _ ranged rfl⟩

/-- The line of a pattern is refused as it stands. -/
theorem pattern_line_refused :
    (run .standard (.ofFiles []) (.hex "48" true)).run (fun _ => 0) =
        (.ok (.success ["[48]"]), fun _ => 0) ∧
      (run .standard (.ofFiles []) (.hex "[48]" true)).run (fun _ => 0) =
        (.ok (.failure "invalid character: `[` at position 0"), fun _ => 0) :=
  ⟨rfl, rfl⟩

end CommandLine
end ByteRecord
