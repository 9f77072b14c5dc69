import ByteRecord.Proofs.Expr.Beginnings
import ByteRecord.Proofs.Expr.Quoted
import ByteRecord.Proofs.Source.Scanning
import ByteRecord.Proofs.Source.Words
import ByteRecord.Proofs.Specification.Declarations

/-! Printed specifications. A list of fields is written out with any blanks and line feeds between
the tokens inside the braces; its parts are then cut into the phrases of the grammar. -/
namespace ByteRecord.Source
open Text Lexical

/-- Without arrows that end it, only the kinds and texts of its tokens make a run. -/
theorem IsRun.of_map_eq (run : IsRun false depth tokens)
    (same : others.map (fun token => (token.kind, token.text)) =
      tokens.map (fun token => (token.kind, token.text))) : IsRun false depth others := by
  induction tokens generalizing depth others with
  | nil =>
    obtain rfl := List.map_eq_nil_iff.mp same
    exact run
  | cons token rest ih =>
    obtain ⟨other, more, rfl, own, later⟩ := List.map_eq_cons_iff.mp same
    obtain ⟨kind, text⟩ := Prod.mk.inj own
    obtain ⟨significant, outside, further⟩ := run
    have depths : Cursor.depthAfter other depth = Cursor.depthAfter token depth := by
      rw [Cursor.depthAfter, Cursor.depthAfter, kind, text]
    refine ⟨kind ▸ significant, fun zero => ?_, depths ▸ ih further later⟩
    obtain ⟨no_comma, no_closing, -⟩ := outside zero
    rw [Token.isOp] at no_comma
    rw [Token.isClosing] at no_closing
    rw [Token.isOp, Token.isClosing, kind, text]
    exact ⟨no_comma, no_closing, fun stops => absurd stops (by decide)⟩

theorem depthAfter_eq_add {token : Token} {depth : Nat}
    (within : depth = 0 → token.isClosing = false) (outer : Int) :
    depthAfter token.kind token.text (outer + depth) =
      outer + (Cursor.depthAfter token depth : Nat) := by
  rw [Token.isClosing] at within
  simp only [depthAfter, Cursor.depthAfter]
  cases operator : token.kind == .op with
  | false => simp [bne, operator]
  | true =>
    rw [operator, Bool.true_and] at within
    simp only [bne, operator, Bool.not_true, Bool.false_eq_true, if_false, if_true]
    cases opening : isOpening token.text with
    | true => simp [Int.add_assoc]
    | false =>
      cases closing : isClosing token.text with
      | false => simp
      | true =>
        have deep : depth ≠ 0 := fun zero =>
          Bool.false_ne_true ((within zero).symm.trans closing)
        simp only [Bool.false_eq_true, if_false, if_true]
        omega

/-- A run closes all brackets that it opens and those that are open at its start. -/
theorem IsRun.depthOver {depth : Nat} (run : IsRun arrowEnds depth tokens) (outer : Int) :
    depthOver (outer + depth) tokens = outer := by
  induction tokens generalizing depth with
  | nil =>
    obtain rfl : depth = 0 := run
    exact Int.add_zero outer
  | cons token rest ih =>
    obtain ⟨-, outside, further⟩ := run
    change Source.depthOver (depthAfter token.kind token.text (outer + depth)) rest = outer
    rw [depthAfter_eq_add fun zero => (outside zero).2.1]
    exact ih further

/-- Tokens that spell a part of a text without blanks around it span this part. -/
theorem spanned_of_spells {front text rest : List Char}
    (spells : Spells true (Location.after ⟨1, 0⟩ front) depth text (first :: run))
    (begins : ∀ c ∈ text.head?, c ≠ ' ' ∧ c ≠ '\t' ∧ c ≠ '\n')
    (ends : ∀ c ∈ text.getLast?, c ≠ ' ' ∧ c ≠ '\t' ∧ c ≠ '\n') :
    spanned (front ++ (text ++ rest)) (first :: run) = text := by
  have start := spells.first_start begins
  have stop := spells.last_stop ends ((run.getLastD first)) (by simp [List.getLast?_cons])
  rw [← Location.after_append] at stop
  rw [spanned, start, stop, position_after, ← List.append_assoc, position_after]
  simp

/-- A text that is its own trim has no blank around it. -/
theorem apart_of_trim (own : trim text = text) :
    (∀ c ∈ text.head?, isBlank c = false) ∧ ∀ c ∈ text.getLast?, isBlank c = false := by
  have first_of_dropWhile {text : List Char} (whole : text.dropWhile isBlank = text) :
      ∀ c ∈ text.head?, isBlank c = false := by
    rintro c first
    cases text with
    | nil => cases first
    | cons d rest =>
      cases first
      simpa using List.dropWhile_eq_self_iff.mp whole (Nat.succ_pos _)
  have front : text.dropWhile isBlank = text := by
    refine (List.dropWhile_suffix _).eq_of_length_le ?_
    calc text.length = (trim text).length := by rw [own]
      _ ≤ (text.dropWhile isBlank).length := by
        rw [trim, List.length_reverse]
        exact (List.dropWhile_sublist _).length_le.trans_eq List.length_reverse
  have back : text.reverse.dropWhile isBlank = text.reverse := by
    rw [trim, front] at own
    exact List.reverse_eq_iff.mp own
  refine ⟨first_of_dropWhile front, ?_⟩
  rw [← List.head?_reverse]
  exact first_of_dropWhile back

/-- A text that no operator before it goes on with. -/
def IsApart (text : List Char) : Prop :=
  ∀ c ∈ text.head?, c ≠ '=' ∧ c ≠ '>'

theorem IsDelimited.isApart (delimited : IsDelimited text) : IsApart text := by
  intro c first
  have plain := of_isDelimiter (p := fun c => c == '=' || c == '>') (delimited c first)
  simpa using plain

theorem IsGap.isDelimited_append (own : IsGap gap) (delimited : IsDelimited text) :
    IsDelimited (gap ++ text) := by
  cases gap with
  | nil => exact delimited
  | cons c gap =>
    rintro _ ⟨⟩
    rcases own c List.mem_cons_self with rfl | rfl | rfl <;> decide

theorem IsGap.isApart_append (own : IsGap gap) (apart : IsApart text) : IsApart (gap ++ text) := by
  cases gap with
  | nil => exact apart
  | cons c gap =>
    rintro _ ⟨⟩
    rcases own c List.mem_cons_self with rfl | rfl | rfl <;> decide

/-- A mark with gaps around it. -/
inductive IsSpaced (mark : List Char) : List Char → Prop
  | spaced (before : IsGap gap) (behind : IsGap gap') : IsSpaced mark (gap ++ (mark ++ gap'))

theorem IsSpaced.first (own : IsSpaced (c :: mark) joint) (rest : List Char) :
    ∀ d ∈ (joint ++ rest).head?, d = ' ' ∨ d = '\t' ∨ d = '\n' ∨ d = c := by
  cases own with
  | @spaced gap gap' before behind =>
    cases gap with
    | nil =>
      rintro _ ⟨⟩
      exact .inr (.inr (.inr rfl))
    | cons d gap =>
      rintro _ ⟨⟩
      rcases before d List.mem_cons_self with same | same | same
      · exact .inl same
      · exact .inr (.inl same)
      · exact .inr (.inr (.inl same))

theorem IsSpaced.isDelimited_append (own : IsSpaced [c] joint) (delimiter : isDelimiter c)
    (rest : List Char) : IsDelimited (joint ++ rest) := by
  intro d first
  rcases own.first rest d first with rfl | rfl | rfl | rfl
  any_goals decide
  exact delimiter

theorem spells_mark (own : IsSpaced [c] joint) (mark : c ∈ [',', ':', '@']) (apart : IsApart rest)
    (later : Spells true (location.after joint) 1 rest tokens) :
    ∃ sign : Token, sign.isOp (String.ofList [c]) ∧
      Spells true location 1 (joint ++ rest) (sign :: tokens) := by
  cases own with
  | @spaced gap gap' before behind =>
    have known : c ∈ marks := by
      simp only [List.mem_cons, List.not_mem_nil, or_false] at mark
      rcases mark with rfl | rfl | rfl <;> decide
    have flat : depthAfter .op (String.ofList [c]) 1 = 1 := by
      simp only [List.mem_cons, List.not_mem_nil, or_false] at mark
      rcases mark with rfl | rfl | rfl <;> decide
    rw [Location.after_append, Location.after_append] at later
    have apart := behind.isApart_append apart
    have sign := Spells.mark known (fun next first => runsOn_mark known (apart next first))
      (flat.symm ▸ later.behind_gap behind (by decide))
    refine ⟨tokenAt (location.after gap) .op [c], by simp [Token.isOp, tokenAt], ?_⟩
    rw [List.append_assoc, List.append_assoc]
    exact sign.behind_gap before (by decide)

theorem spells_arrow (own : IsSpaced ['=', '>'] joint) (apart : IsApart rest)
    (later : Spells true (location.after joint) 1 rest tokens) :
    ∃ first second : Token, first.isArrow second ∧
      Spells true location 1 (joint ++ rest) (first :: second :: tokens) := by
  cases own with
  | @spaced gap gap' before behind =>
    rw [Location.after_append, Location.after_append] at later
    have apart := behind.isApart_append apart
    have second := Spells.mark (c := '>') (by decide)
      (fun next first => runsOn_mark (by decide) (apart next first))
      (later.behind_gap behind (by decide))
    have first := Spells.mark (c := '=') (by decide) (fun next first => by cases first; decide)
      second
    have adjacent : Token.isArrow (tokenAt (location.after gap) .op ['='])
        (tokenAt ((location.after gap).after ['=']) .op ['>']) := by
      simp [Token.isArrow, Token.spells, Token.isOp, tokenAt]
    refine ⟨_, _, adjacent, ?_⟩
    rw [List.append_assoc, List.append_assoc]
    exact first.behind_gap before (by decide)

theorem spells_opening (own : IsGap gap)
    (later : Spells true (location.after (' ' :: '\x7b' :: gap)) 1 rest tokens) :
    ∃ brace : Token, brace.isOp "\x7b" ∧
      Spells true location 0 (' ' :: '\x7b' :: (gap ++ rest)) (brace :: tokens) := by
  have inside : Spells true ((location.after [' ']).after ['\x7b']) 1 (gap ++ rest) tokens :=
    later.behind_gap own (by decide)
  have opening : Spells true (location.after [' ']) 0 ('\x7b' :: (gap ++ rest))
      (tokenAt (location.after [' ']) .op ['\x7b'] :: tokens) :=
    .mark (by decide) (fun next _ => runsOn_eq_false (by decide) next) inside
  exact ⟨_, by simp [Token.isOp, tokenAt], .blank (.inl rfl) opening⟩

theorem spells_closing (location : Location) :
    ∃ brace : Token, brace.isOp "\x7d" ∧ Spells true location 1 ['\x7d'] [brace] :=
  ⟨tokenAt location .op ['\x7d'], by simp [Token.isOp, tokenAt], .mark (by decide) nofun .nil⟩

end ByteRecord.Source

namespace ByteRecord.Phrase
open Source Text Lexical

/-- A member is printed as `_`, as its name, or as its position in decimal. No number has more digits
than can be read, which a list of fields without gaps cannot come near. -/
inductive PrintsMember : Option Member → List Char → Prop
  | none : PrintsMember none ['_']
  | name (free : isFreeName name) (ascii : ∀ c ∈ name.toList, isAscii c) (other : name ≠ "_") :
    PrintsMember (some (.name name)) name.toList
  | position (short : (Number.natText k).toList.length ≤ Number.maxDecimalDigits) :
    PrintsMember (some (.position k)) (Number.natText k).toList

/-- What hex literals of fixed length consist of. -/
def isHexPart (c : Char) : Bool :=
  Hex.isDigit c || c == '_' || c == ' ' || c == '\t'

/-- A pattern is printed as a hex literal in double quotes. -/
inductive PrintsPattern (pattern : Pattern) : List Char → Prop
  | hex (plain : ∀ c ∈ digits, isHexPart c)
      (lexed : Hex.tokenize digits = .ok pieces) (fixed : .openRange ∉ pieces)
      (own : pattern.matchers = pieces.map Matcher.ofToken) :
    PrintsPattern pattern ('"' :: digits ++ ['"'])

/-- An expression is printed as it was written: a run of tokens without blanks around it. -/
structure PrintsExpression (e : Expression) (text : List Char) : Prop where
  source : e.source = .str (String.ofList text)
  compiled : Expr.compile text = .ok e.code
  run : ∃ run, run ≠ [] ∧ IsRun false 0 run ∧ Spells true ⟨1, 0⟩ 1 text run
  whole : trim text = text
  clean : OnlyLineFeeds text

/-- A pattern, an arrow and an expression. -/
inductive PrintsTransform (pattern : Pattern) (e : Expression) : List Char → Prop
  | arrow (own : PrintsPattern pattern digits) (sign : IsSpaced ['=', '>'] arrow)
      (value : PrintsExpression e text) :
    PrintsTransform pattern e (digits ++ (arrow ++ text))

/-- What is printed for a field. -/
inductive PrintsField : Field → List Char → Prop
  | matched (named : PrintsMember member name) (separated : IsSpaced [':'] colon)
      (own : PrintsPattern pattern text) :
    PrintsField ⟨member, pattern, none, none, location⟩ (name ++ (colon ++ text))
  | transformed (named : PrintsMember (some member) name) (separated : IsSpaced [':'] colon)
      (own : PrintsTransform pattern e text) :
    PrintsField ⟨some member, pattern, none, some (.expression e), location⟩
      (name ++ (colon ++ text))
  | bound (named : PrintsMember (some member) name) (separated : IsSpaced [':'] colon)
      (free : isFreeName label) (ascii : ∀ c ∈ label.toList, isAscii c)
      (binds : IsSpaced ['@'] sign) (own : PrintsTransform pattern e text) :
    PrintsField ⟨some member, pattern, some label, some (.expression e), location⟩
      (name ++ (colon ++ (label.toList ++ (sign ++ text))))

/-- What is printed for fields: commas between them, and a comma behind the last one or not. -/
inductive PrintsBody : List Field → List Char → Prop
  | empty : PrintsBody [] []
  | last (own : PrintsField field text) (behind : IsGap gap) : PrintsBody [field] (text ++ gap)
  | further (own : PrintsField field text) (separated : IsSpaced [','] comma)
      (more : PrintsBody fields rest) :
    PrintsBody (field :: fields) (text ++ (comma ++ rest))

/-- What is printed for a record: the name of what makes it, and its fields in braces. -/
inductive PrintsRecord (name : List Char) (fields : List Field) : List Char → Prop
  | braces (first : name.head?.any isIdentifierStart) (word : ∀ c ∈ name, isWord c)
      (gap : IsGap before) (own : PrintsBody fields text) :
    PrintsRecord name fields (name ++ ' ' :: '\x7b' :: (before ++ (text ++ ['\x7d'])))

/-- Fields that differ in nothing but the form of their patterns and where they stand. -/
structure Alike (field other : Field) : Prop where
  member : other.member = field.member
  binding : other.binding = field.binding
  matchers : other.pattern.matchers = field.pattern.matchers
  transform : other.transform.map Transform.text = field.transform.map Transform.text

section
variable {location : Location} {rest : List Char} {more : List Token}

theorem exists_letters_of_isFreeName (free : isFreeName name) :
    ∃ c others, name.toList = c :: others ∧ isIdentifierStart c ∧ others.all isIdentifierPart := by
  have identifier := (Bool.and_eq_true_iff.mp free).1
  cases letters : name.toList with
  | nil =>
    rw [letters] at identifier
    cases identifier
  | cons c others =>
    rw [letters] at identifier
    exact ⟨c, others, rfl, Bool.and_eq_true_iff.mp identifier⟩

theorem isWord_of_isFreeName (free : isFreeName name) (ascii : ∀ c ∈ name.toList, isAscii c) :
    ∀ c ∈ name.toList, isWord c := by
  obtain ⟨first, others, letters, starts, parts⟩ := exists_letters_of_isFreeName free
  intro c present
  have own := ascii c present
  rw [isWord, if_pos own]
  rw [letters] at present
  rcases List.mem_cons.mp present with rfl | later
  · rw [isIdentifierStart, if_pos own] at starts
    rcases Bool.or_eq_true_iff.mp starts with letter | same
    · simp [letter]
    · simp [same]
  · have part := List.all_eq_true.mp parts c later
    rwa [isIdentifierPart, if_pos own] at part

theorem spells_freeName (free : isFreeName name) (ascii : ∀ c ∈ name.toList, isAscii c)
    (delimited : IsDelimited rest) (later : Spells true (location.after name.toList) 1 rest more) :
    Spells true location 1 (name.toList ++ rest)
      (tokenAt location .name name.toList :: more) := by
  obtain ⟨c, others, letters, starts, -⟩ := exists_letters_of_isFreeName free
  have word := isWord_of_isFreeName free ascii
  rw [letters] at later word ⊢
  exact Spells.word_name starts word delimited later

theorem PrintsMember.spells (own : PrintsMember member text) (delimited : IsDelimited rest)
    (later : Spells true (location.after text) 1 rest more) :
    ∃ token, IsMember token member ∧ Spells true location 1 (text ++ rest) (token :: more) := by
  cases own with
  | none =>
    exact ⟨_, .none rfl rfl, Spells.word_name (by decide) (List.all_eq_true.mp rfl) delimited later⟩
  | @name name free ascii other =>
    have text : (tokenAt location .name name.toList).text = name := String.ofList_toList
    refine ⟨_, ?_, spells_freeName free ascii delimited later⟩
    have named := @IsMember.name (tokenAt location .name name.toList) rfl
      (by rwa [text]) (by rwa [text])
    rwa [text] at named
  | @position k short =>
    have text : (tokenAt location .number (Number.natText k).toList).text.toList =
      (Number.natText k).toList := String.toList_ofList
    refine ⟨_, ?_, Spells.decimal k delimited later⟩
    have named := @IsMember.position (tokenAt location .number (Number.natText k).toList) rfl
      (by rw [text]; exact Number.natText_ne_nil k)
      (by rw [text]; exact fun c => Number.isAsciiDigit_of_mem_natText) (by rwa [text])
    rwa [text, Number.ofDecimal_natText] at named

theorem PrintsPattern.spells (own : PrintsPattern pattern text) (source : List Char)
    (apart : ∀ c ∈ rest.head?, c ≠ '"') (later : Spells true (location.after text) 1 rest more) :
    ∃ token other, IsPattern source [token] other ∧ other.matchers = pattern.matchers ∧
      Spells true location 1 (text ++ rest) (token :: more) := by
  cases own with
  | @hex digits pieces plain lexed fixed same =>
    have verbatim : IsVerbatim digits := by
      intro c present
      have part := plain c present
      refine ⟨?_, ?_, ?_, ?_⟩ <;> rintro rfl <;> cases part
    have value := Expr.ofText?_quoted verbatim
    have text : (tokenAt location .string ('"' :: digits ++ ['"'])).text.toList =
      '"' :: digits ++ ['"'] := String.toList_ofList
    have clear : '\x00' ∉ '"' :: digits ++ ['"'] := by
      have inside : '\x00' ∉ digits := fun present => nomatch plain _ present
      simpa using inside
    have spelt := Spells.quoted verbatim apart later
    rw [← text] at value clear
    have digits_lexed : Hex.tokenize (String.ofList digits).toList = .ok pieces := by
      rwa [String.toList_ofList]
    refine ⟨_, _, .hex rfl clear value digits_lexed fixed, same.symm, ?_⟩
    simpa using spelt

variable {source : List Char} (front : List Char)

theorem PrintsExpression.spells (own : PrintsExpression e text)
    (place : location = Location.after ⟨1, 0⟩ front) (parts : source = front ++ (text ++ rest))
    (delimited : IsDelimited rest) (later : Spells true (location.after text) 1 rest more) :
    ∃ run other, IsExpression source false run other ∧ other.source = e.source ∧
      Spells true location 1 (text ++ rest) (run ++ more) := by
  obtain ⟨run, something, closed, spells⟩ := own.run
  obtain ⟨others, moved, same⟩ := spells.moved location
  have closed' := closed.of_map_eq same
  have depth : depthOver 1 others = 1 := closed'.depthOver 1
  cases others with
  | nil =>
    exact absurd (List.map_eq_nil_iff.mp same.symm) something
  | cons first others =>
    obtain ⟨begins, ends⟩ := apart_of_trim own.whole
    have plain {c : Char} (no_blank : isBlank c = false) : c ≠ ' ' ∧ c ≠ '\t' ∧ c ≠ '\n' := by
      refine ⟨?_, ?_, ?_⟩ <;> rintro rfl <;> cases no_blank
    have span : spanned source (first :: others) = text := by
      rw [parts]
      exact spanned_of_spells (place ▸ moved) (fun c own => plain (begins c own))
        fun c own => plain (ends c own)
    refine ⟨first :: others, _, .run closed' (span.symm ▸ own.compiled), ?_,
      moved.append (depth.symm ▸ later) delimited⟩
    dsimp only
    rw [span, own.whole, own.source]

theorem PrintsPattern.isApart_append (own : PrintsPattern pattern text) (rest : List Char) :
    IsApart (text ++ rest) := by
  cases own with
  | hex =>
    rintro _ ⟨⟩
    decide

theorem PrintsExpression.isApart_append (own : PrintsExpression e text) (rest : List Char) :
    IsApart (text ++ rest) := by
  have compiled := own.compiled
  cases text with
  | nil =>
    obtain ⟨run, something, -, spells⟩ := own.run
    exact absurd (spells.eq_nil rfl) something
  | cons c text =>
    rintro _ ⟨⟩
    exact Expr.first_of_compile compiled

theorem PrintsTransform.spells (own : PrintsTransform pattern e text)
    (place : location = Location.after ⟨1, 0⟩ front) (parts : source = front ++ (text ++ rest))
    (delimited : IsDelimited rest) (later : Spells true (location.after text) 1 rest more) :
    ∃ tokens first second run pattern' e', IsPattern source tokens pattern' ∧
      pattern'.matchers = pattern.matchers ∧ first.isArrow second ∧
      IsExpression source false run e' ∧ e'.source = e.source ∧
      Spells true location 1 (text ++ rest) (tokens ++ first :: second :: run ++ more) := by
  cases own with
  | @arrow digits arrow text own sign value =>
    -- from the last part to the first
    rw [Location.after_append, Location.after_append] at later
    obtain ⟨run, e', phrase, same, later⟩ := value.spells (front ++ (digits ++ arrow))
      (by simp only [place, Location.after_append]) (by simpa using parts) delimited later
    obtain ⟨first, second, spelt, later⟩ := spells_arrow sign (value.isApart_append rest) later
    have unquoted : ∀ c ∈ (arrow ++ (text ++ rest)).head?, c ≠ '"' := by
      intro c own
      rcases sign.first _ c own with rfl | rfl | rfl | rfl <;> decide
    obtain ⟨token, pattern', hex, matchers, later⟩ := own.spells source unquoted later
    refine ⟨[token], first, second, run, pattern', e', hex, matchers, spelt, phrase, same, ?_⟩
    rw [List.append_assoc, List.append_assoc]
    exact later

theorem PrintsTransform.isApart_append (own : PrintsTransform pattern e text) (rest : List Char) :
    IsApart (text ++ rest) := by
  cases own with
  | arrow own =>
    rw [List.append_assoc]
    exact own.isApart_append _

theorem isApart_freeName (free : isFreeName name) (rest : List Char) :
    IsApart (name.toList ++ rest) := by
  obtain ⟨c, others, letters, starts, -⟩ := exists_letters_of_isFreeName free
  rw [letters]
  rintro _ ⟨⟩
  constructor <;> rintro rfl <;> cases starts

theorem PrintsMember.isApart_append (own : PrintsMember member text) (rest : List Char) :
    IsApart (text ++ rest) := by
  cases own with
  | none =>
    rintro _ ⟨⟩
    decide
  | name free => exact isApart_freeName free rest
  | @position k =>
    obtain ⟨c, digits, text⟩ := List.exists_cons_of_ne_nil (Number.natText_ne_nil k)
    have digit : isAsciiDigit c := Number.isAsciiDigit_of_mem_natText (text ▸ List.mem_cons_self)
    rw [text]
    rintro _ ⟨⟩
    constructor <;> rintro rfl <;> cases digit

theorem PrintsField.isApart_append (own : PrintsField field text) (rest : List Char) :
    IsApart (text ++ rest) := by
  cases own with
  | matched named | transformed named | bound named =>
    rw [List.append_assoc]
    exact named.isApart_append _

theorem PrintsBody.isApart_append (own : PrintsBody fields text) (closing : IsApart rest) :
    IsApart (text ++ rest) := by
  cases own with
  | empty => exact closing
  | last own | further own =>
    rw [List.append_assoc]
    exact own.isApart_append _

theorem transform_text {e e' : Expression} (same : e'.source = e.source) :
    (Transform.expression e').text = (Transform.expression e).text := by
  rw [Transform.text, Transform.text, same]

theorem PrintsField.spells (own : PrintsField field text)
    (place : location = Location.after ⟨1, 0⟩ front) (parts : source = front ++ (text ++ rest))
    (delimited : IsDelimited rest) (later : Spells true (location.after text) 1 rest more) :
    ∃ tokens field', IsField source tokens field' ∧ Alike field field' ∧
      Spells true location 1 (text ++ rest) (tokens ++ more) := by
  -- from the last part to the first
  cases own with
  | matched named separated own =>
    rw [Location.after_append, Location.after_append] at later
    obtain ⟨token, pattern', hex, matchers, later⟩ := own.spells source
      (fun c first => by rintro rfl; cases delimited _ first) later
    obtain ⟨sign, opens, later⟩ := spells_mark separated (by decide) (own.isApart_append rest) later
    obtain ⟨first, phrase, later⟩ := named.spells (separated.isDelimited_append (by decide) _) later
    refine ⟨_, _, .matched phrase opens hex, ⟨rfl, rfl, matchers, rfl⟩, ?_⟩
    rw [List.append_assoc, List.append_assoc]
    exact later
  | @transformed _ name colon _ _ _ _ named separated own =>
    rw [Location.after_append, Location.after_append] at later
    obtain ⟨tokens, first, second, run, pattern', e', hex, matchers, arrow, value, same, later⟩ :=
      own.spells (front ++ (name ++ colon)) (by simp only [place, Location.after_append])
        (by simpa using parts) delimited later
    obtain ⟨sign, opens, later⟩ := spells_mark separated (by decide) (own.isApart_append rest) later
    obtain ⟨token, phrase, later⟩ := named.spells (separated.isDelimited_append (by decide) _) later
    refine ⟨_, _, .transformed phrase opens hex arrow value,
      ⟨rfl, rfl, matchers, congrArg some (transform_text same)⟩, ?_⟩
    rw [List.append_assoc, List.append_assoc]
    exact later
  | @bound _ name colon label sign _ _ _ _ named separated free ascii binds own =>
    rw [Location.after_append, Location.after_append, Location.after_append,
      Location.after_append] at later
    obtain ⟨tokens, first, second, run, pattern', e', hex, matchers, arrow, value, same, later⟩ :=
      own.spells (front ++ (name ++ (colon ++ (label.toList ++ sign))))
        (by simp only [place, Location.after_append]) (by simpa using parts) delimited later
    obtain ⟨at_, binding, later⟩ := spells_mark binds (by decide) (own.isApart_append rest) later
    have later := spells_freeName free ascii (binds.isDelimited_append (by decide) _) later
    obtain ⟨point, opens, later⟩ := spells_mark separated (by decide) (isApart_freeName free _) later
    obtain ⟨token, phrase, later⟩ := named.spells (separated.isDelimited_append (by decide) _) later
    have word : (tokenAt (((location.after name).after colon)) .name label.toList).text = label :=
      String.ofList_toList
    refine ⟨_, _, .bound phrase opens rfl (word.symm ▸ free) binding hex arrow value,
      ⟨rfl, congrArg some word, matchers, congrArg some (transform_text same)⟩, ?_⟩
    simp only [List.append_assoc]
    exact later

theorem PrintsBody.spells (own : PrintsBody fields text)
    (place : location = Location.after ⟨1, 0⟩ front) (parts : source = front ++ (text ++ rest))
    (delimited : IsDelimited rest) (later : Spells true (location.after text) 1 rest more) :
    ∃ tokens fields', IsBody source tokens fields' none ∧ List.Forall₂ Alike fields fields' ∧
      Spells true location 1 (text ++ rest) (tokens ++ more) := by
  induction own generalizing location front with
  | empty => exact ⟨[], [], .empty, .nil, later⟩
  | last own behind =>
    rw [Location.after_append] at later
    have later := later.behind_gap behind (by decide)
    rw [List.append_assoc] at parts ⊢
    obtain ⟨tokens, field', phrase, alike, later⟩ :=
      own.spells front place parts (behind.isDelimited_append delimited) later
    exact ⟨tokens, [field'], .last phrase, .cons alike .nil, later⟩
  | @further field text comma fields later_text own separated printed ih =>
    rw [Location.after_append, Location.after_append] at later
    obtain ⟨tokens, fields', body, alike, later⟩ := ih (front ++ (text ++ comma))
      (by simp only [place, Location.after_append]) (by simpa using parts) later
    obtain ⟨sign, separates, later⟩ :=
      spells_mark separated (by decide) (printed.isApart_append delimited.isApart) later
    simp only [List.append_assoc] at parts ⊢
    obtain ⟨first, field', phrase, same, later⟩ :=
      own.spells front place parts (separated.isDelimited_append (by decide) _) later
    refine ⟨_, _, .field phrase separates body, .cons same alike, ?_⟩
    rw [List.append_assoc]
    exact later

end

/-- A printed record is a declaration of the grammar, cut into tokens of its own. -/
theorem PrintsRecord.tokenize {scope : Scope} (own : PrintsRecord name fields source)
    (resolved : Plan.resolvePath scope [String.ofList name] = .ok target) :
    ∃ tokens fields', Source.tokenize source = .ok tokens ∧
      IsDeclaration source scope tokens ⟨none, [String.ofList name], target, fields', none⟩ ∧
      List.Forall₂ Alike fields fields' := by
  cases own with
  | @braces before text first word gap own =>
    obtain ⟨c, others, rfl⟩ : ∃ c others, name = c :: others := by
      cases name with
      | nil => cases first
      | cons c others => exact ⟨c, others, rfl⟩
    have starts : isIdentifierStart c := first
    have ends : IsDelimited ['\x7d'] := fun _ first => by cases first; decide
    have parts : c :: others ++ ' ' :: '\x7b' :: (before ++ (text ++ ['\x7d'])) =
        (c :: others ++ ' ' :: '\x7b' :: before) ++ (text ++ ['\x7d']) := by simp
    obtain ⟨closing, closes, later⟩ := spells_closing _
    obtain ⟨tokens, fields', body, alike, later⟩ := own.spells _ rfl parts ends later
    rw [Location.after_append] at later
    obtain ⟨opening, opens, later⟩ := spells_opening gap later
    have spells := Spells.word_name starts word (fun _ first => by cases first; decide) later
    have named : IsPath [tokenAt ⟨1, 0⟩ .name (c :: others)] [String.ofList (c :: others)] :=
      .name rfl
    have closed := (isRun_plain named opens body closes).depthOver 0
    obtain ⟨stop, last, scanned⟩ := tokenize_of_spells spells (isPlain_of_all starts) closed
    refine ⟨_, fields', scanned, ?_, alike⟩
    have whole := IsDeclaration.plain named resolved opens body closes last
    simpa using whole

end ByteRecord.Phrase
