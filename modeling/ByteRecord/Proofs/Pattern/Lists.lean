import ByteRecord.Proofs.Expr.Displays
import ByteRecord.Proofs.Specification.RoundTrip

/-! Lists of numbers in specification texts: such a list is one run of tokens, and so it is read as
a pattern element by element. -/
namespace ByteRecord.Source
open Text Lexical

/-- Tokens spell a text inside a bracket, and the bracket is closed where the text ends. -/
def Closes (location : Location) (text : List Char) : Prop :=
  ∃ tokens, Spells true location 1 text tokens ∧ IsRun true 1 tokens

namespace Closes
variable {location : Location} {text rest : List Char}

theorem bracket (location : Location) : Closes location [']'] :=
  ⟨_, .mark (by decide) nofun .nil, nofun, nofun, rfl⟩

theorem gap (own : IsGap before) (later : Closes (location.after before) text) :
    Closes location (before ++ text) := by
  obtain ⟨tokens, spells, run⟩ := later
  exact ⟨tokens, spells.behind_gap own (by decide), run⟩

theorem of_token {token : Token} {tokens : List Token} (further : token.kind ≠ .finish)
    (flat : Cursor.depthAfter token 1 = 1) (run : IsRun true 1 tokens) :
    IsRun true 1 (token :: tokens) :=
  ⟨further, nofun, flat.symm ▸ run⟩

theorem mark (mark : c ∈ [',', '-']) (ends : ∀ next ∈ rest.head?, runsOn c next = false)
    (later : Closes (location.after [c]) rest) : Closes location (c :: rest) := by
  obtain ⟨tokens, spells, run⟩ := later
  simp only [List.mem_cons, List.not_mem_nil, or_false] at mark
  rcases mark with rfl | rfl
  · exact ⟨_, .mark (by decide) ends spells, of_token nofun rfl run⟩
  · exact ⟨_, .mark (by decide) ends spells, of_token nofun rfl run⟩

theorem word {word : List Char} {kind : TokenKind} (other : kind = .name ∨ kind = .number)
    (plain : opening? (word ++ rest) = none)
    (longest : piece? (firstRow (word ++ rest)) = some (.token kind word.length))
    (later : Closes (location.after word) rest) : Closes location (word ++ rest) := by
  obtain ⟨tokens, spells, run⟩ := later
  rcases other with rfl | rfl
  · exact ⟨_, .word plain longest spells, of_token nofun rfl run⟩
  · exact ⟨_, .word plain longest spells, of_token nofun rfl run⟩

theorem numeral {word : List Char} (numeral : Numeral n word) (parted : IsParted rest)
    (later : Closes (location.after word) rest) : Closes location (word ++ rest) := by
  have no_break : '\n' ∉ word := fun present => absurd (numeral.of_mem present) (by decide)
  have row := (firstRow_append no_break rest).1
  have parted' : IsParted (firstRow rest) := by
    rw [IsParted, head?_firstRow]
    exact parted
  have width := numeral.numberWidth_append parted'
  obtain ⟨c, digits, rfl, digit⟩ := numeral.exists_digit
  refine .word (.inr rfl) (opening?_digit digit _) ?_ later
  rw [row, List.cons_append, piece?_of_isPlain (isPlain_of_all digit) (opening?_digit digit _)]
  rw [List.cons_append] at width
  simp only [piece?.word?, width]
  rfl

theorem underscore (parted : IsParted rest) (later : Closes (location.after ['_']) rest) :
    Closes location ('_' :: rest) := by
  have row := (firstRow_cons (c := '_') (by decide) rest).1
  have whole : ('_' :: firstRow rest).takeWhile isWord = ['_'] := by
    rw [IsParted, ← head?_firstRow] at parted
    rw [List.takeWhile_cons_of_pos (by decide)]
    cases own : firstRow rest with
    | nil => rfl
    | cons c behind =>
      rw [own] at parted
      have other := IsParted.head (p := (!isWord ·)) parted
      rw [Bool.not_eq_true'] at other
      rw [List.takeWhile_cons_of_neg (by simp [other])]
  have plain (behind : List Char) : opening? ('_' :: behind) = none :=
    opening?_eq_none_of_first (by decide) behind
  refine show Closes location (['_'] ++ rest) from .word (.inl rfl) (plain rest) ?_ later
  rw [List.singleton_append, row, piece?_of_isPlain (by decide) (plain _)]
  simp only [piece?.word?, whole, numberWidth_eq_zero (c := '_') (by decide) (by decide),
    operatorWidth_eq_zero (c := '_') (by decide)]
  rfl

theorem item (own : Item slot text) (parted : IsParted rest)
    (later : Closes (location.after text) rest) : Closes location (text ++ rest) := by
  cases own with
  | none => exact underscore parted later
  | number numeral => exact .numeral numeral parted later
  | @negative between n word own numeral =>
    rw [← List.singleton_append, Location.after_append, Location.after_append] at later
    rw [List.cons_append, List.append_assoc]
    exact .mark (by decide) (numeral.runsOn_sign own rest) ((later.numeral numeral parted).gap own)

theorem more (more : MoreListed slots text) (location : Location) : Closes location text := by
  have comma (location : Location) (rest : List Char) (later : Closes (location.after [',']) rest) :
      Closes location (',' :: rest) :=
    .mark (by decide) (fun next _ => runsOn_eq_false (by decide) next) later
  induction more generalizing location with
  | closing own => exact (bracket _).gap own
  | trailing own own' => exact (comma _ _ ((bracket _).gap own')).gap own
  | further own own' item more ih =>
    exact (comma _ _ (((ih _).item item more.isParted).gap own')).gap own

theorem listed (listed : Listed slots text) (location : Location) : Closes location text := by
  cases listed with
  | empty own => exact (bracket _).gap own
  | items own item more => exact ((Closes.more more _).item item more.isParted).gap own

end Closes
end ByteRecord.Source

namespace ByteRecord.Pattern
open Source Text Lexical

variable {slots : List (Option Int)} {text : List Char}

theorem ofSource_literal (begins : isPlain c)
    (closed : literalWidth? (c :: text) = some (c :: text).length) :
    ofSource (c :: text) = ofLiteral (String.ofList (c :: text)) ⟨1, 0⟩ := by
  have whole : literalWidth? (c :: text ++ []) = some (c :: text).length := by
    rwa [List.append_nil]
  have spells : Spells true ⟨1, 0⟩ 0 (c :: text ++ []) [tokenAt ⟨1, 0⟩ .string (c :: text)] :=
    .literal whole .nil
  rw [List.append_nil] at spells
  obtain ⟨stop, last, scanned⟩ := tokenize_of_spells spells begins rfl
  rw [ofSource, Cursor.ofText, scanned]
  rfl

/-- A list of numbers is one run of tokens. -/
theorem spells_listed (listed : Listed slots text) :
    ∃ tokens, Spells true ⟨1, 0⟩ 0 ('[' :: text) (tokenAt ⟨1, 0⟩ .op ['['] :: tokens) ∧
      IsRun true 0 (tokenAt ⟨1, 0⟩ .op ['['] :: tokens) := by
  obtain ⟨tokens, spells, run⟩ := Closes.listed listed (Location.after ⟨1, 0⟩ ['['])
  have no_arrow (next : Token) : (tokenAt ⟨1, 0⟩ .op ['[']).isArrow next = false := by
    simp [Token.isArrow, Token.spells, Token.isOp, tokenAt]
  exact ⟨tokens, .mark (by decide) (fun next _ => runsOn_eq_false (by decide) next) spells,
    by decide, fun _ => ⟨rfl, rfl, fun _ => no_arrow _⟩, run⟩

theorem trim_listed (listed : Listed slots text) : trim ('[' :: text) = '[' :: text := by
  obtain ⟨front, rfl⟩ := List.getLast?_eq_some_iff.mp listed.getLast?_eq
  have first : ('[' :: (front ++ [']'])).dropWhile isBlank = '[' :: (front ++ [']']) := rfl
  have last : ('[' :: (front ++ [']'])).reverse = ']' :: ('[' :: front).reverse := by simp
  rw [trim, first, last, List.dropWhile_cons_of_neg (by decide), ← last, List.reverse_reverse]

/-- The tokens of a list are cut out as the whole of it. -/
theorem spanned_listed {first : Token} {tokens : List Token} (listed : Listed slots text)
    (spells : Spells true ⟨1, 0⟩ 0 ('[' :: text) (first :: tokens)) :
    spanned ('[' :: text) (first :: tokens) = '[' :: text := by
  have ends : ∀ c ∈ ('[' :: text).getLast?, c ≠ ' ' ∧ c ≠ '\t' ∧ c ≠ '\n' := by
    rw [List.getLast?_cons, listed.getLast?_eq]
    rintro _ ⟨⟩
    decide
  have spelt : Spells true (Location.after ⟨1, 0⟩ []) 0 ('[' :: text) (first :: tokens) := spells
  have cut : spanned ([] ++ ('[' :: text ++ [])) (first :: tokens) = '[' :: text :=
    spanned_of_spells spelt (by simp) ends
  rwa [List.nil_append, List.append_nil] at cut

theorem ofDisplay_listed (listed : Listed slots text)
    (short : ∀ n, some n ∈ slots → Number.isOverlong n = false) (location : Location) :
    ∃ elements, List.Forall₂ (fun slot element => Expr.Denotes slot element.expr) slots elements ∧
      ofDisplay ('[' :: text) location =
        (elements.mapM (elementMatcher location)).map fun matchers => ⟨matchers, .array⟩ := by
  obtain ⟨elements, display, each⟩ := Expr.Display.ofText_listed listed short
  refine ⟨elements, each, ?_⟩
  have clear : ('[' :: text).contains '\x00' = false := by
    have inside : '\x00' ∉ text := fun present => absurd (listed.isListed _ present) (by decide)
    simpa using inside
  simp only [ofDisplay, trim_listed listed, clear, display, Bool.false_eq_true, if_false]
  cases elements.mapM (elementMatcher location) <;> rfl

/-- A list of numbers is read as an array of what its items denote. -/
theorem ofSource_listed (listed : Listed slots text)
    (short : ∀ n, some n ∈ slots → Number.isOverlong n = false) :
    ∃ elements, List.Forall₂ (fun slot element => Expr.Denotes slot element.expr) slots elements ∧
      ofSource ('[' :: text) =
        (elements.mapM (elementMatcher ⟨1, 0⟩)).map fun matchers => ⟨matchers, .array⟩ := by
  obtain ⟨elements, each, built⟩ := ofDisplay_listed listed short ⟨1, 0⟩
  refine ⟨elements, each, ?_⟩
  obtain ⟨tokens, spells, run⟩ := spells_listed listed
  have closed : depthOver 0 (tokenAt ⟨1, 0⟩ .op ['['] :: tokens) = 0 := run.depthOver 0
  obtain ⟨stop, last, scanned⟩ := tokenize_of_spells spells (by decide) closed
  have own : ∀ c ∈ '[' :: text, (c == '[' || isListed c) = true :=
    List.forall_mem_cons.mpr ⟨rfl, fun c present => by simp [listed.isListed c present]⟩
  have faces := Cursor.faces_of_tokenize scanned (.of_all own)
  have taken := Reading.takeExpression_of_run faces run (.inl last) .pattern
  rw [spanned_listed listed spells] at taken
  rw [ofSource, Cursor.ofText, scanned]
  change ((read.run _).1) = _
  rw [run_read_display faces (by decide), run_bind, taken]
  dsimp only
  rw [run_lift]
  exact built

end ByteRecord.Pattern
