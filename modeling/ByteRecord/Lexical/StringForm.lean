/-! The outer form of string literals: an optional letter prefix, one or three quotes, and the
text up to the closing quotes, in which a backslash protects the next character. -/
namespace ByteRecord.Lexical

/-- How a string literal opens. -/
structure Opening where
  letters : List Char
  quote : Char
  triple : Bool

/-- The width of prefix and opening quotes. -/
def Opening.width (opening : Opening) : Nat :=
  opening.letters.length + (if opening.triple then 3 else 1)

def isStringPrefix (letters : List Char) : Bool :=
  ["", "b", "r", "u", "f", "br", "rb", "fr", "rf"].contains
    (String.ofList (letters.map Char.toLower))

def openingAfter? (letters rest : List Char) : Option Opening :=
  match rest with
  | q :: more =>
    if (q == '\'' || q == '"') && isStringPrefix letters then
      some ⟨letters, q, match more with
        | r :: s :: _ => r == q && s == q
        | _ => false⟩
    else none
  | [] => none

/-- How the string literal at the head of a text opens, if one does. -/
def opening? (text : List Char) : Option Opening :=
  (openingAfter? [] text).orElse fun _ =>
    (openingAfter? (text.take 1) (text.drop 1)).orElse fun _ =>
      openingAfter? (text.take 2) (text.drop 2)

theorem width_openingAfter? {letters rest : List Char}
    (opens : openingAfter? letters rest = some opening) :
    opening.width ≤ letters.length + rest.length := by
  unfold openingAfter? at opens
  split at opens
  · next q more =>
    split at opens
    · cases opens
      -- three quotes are three characters
      rcases more with _ | ⟨second, _ | ⟨third, more⟩⟩
      · exact Nat.le_refl _
      · exact Nat.add_le_add_left (Nat.le_add_left _ _) _
      · dsimp only [Opening.width]
        simp only [List.length_cons]
        split <;> omega
    · cases opens
  · cases opens

theorem width_opening? {text : List Char} (opens : opening? text = some opening) :
    opening.width ≤ text.length := by
  have within (count : Nat) (opens : openingAfter? (text.take count) (text.drop count) =
      some opening) : opening.width ≤ text.length := by
    have width := width_openingAfter? opens
    rwa [← List.length_append, List.take_append_drop] at width
  rw [opening?] at opens
  cases first : openingAfter? [] text with
  | some other =>
    rw [first] at opens
    cases opens
    exact within 0 first
  | none =>
    cases second : openingAfter? (text.take 1) (text.drop 1) with
    | some other =>
      rw [first, second] at opens
      cases opens
      exact within 1 second
    | none =>
      rw [first, second] at opens
      exact within 2 opens

/-- The width up to and with the closing quotes. A backslash protects the next character; a line
feed that is not protected ends a literal in single quotes without closing it. -/
def Opening.closeWidth? (opening : Opening) : List Char → Option Nat
  | [] => none
  | '\\' :: _ :: rest => (opening.closeWidth? rest).map (· + 2)
  | c :: rest =>
    if c == opening.quote && (!opening.triple || rest.take 2 == [opening.quote, opening.quote]) then
      some (if opening.triple then 3 else 1)
    else if c == '\n' && !opening.triple then none
    else (opening.closeWidth? rest).map (· + 1)

theorem closeWidth?_le {opening : Opening} {text : List Char}
    (closes : opening.closeWidth? text = some width) : width ≤ text.length := by
  induction text using Opening.closeWidth?.induct opening generalizing width with
  | case1 => cases closes
  | case2 guarded rest ih =>
    rw [Opening.closeWidth?] at closes
    obtain ⟨inner, closed, rfl⟩ := Option.map_eq_some_iff.mp closes
    exact Nat.add_le_add_right (ih closed) 2
  | case3 c rest unguarded closing =>
    rw [Opening.closeWidth?.eq_3 opening c rest unguarded, if_pos closing] at closes
    cases closes
    split
    · next triple =>
      simp only [triple, Bool.not_true, Bool.false_or, Bool.and_eq_true, beq_iff_eq] at closing
      have two := congrArg List.length closing.2
      simp only [List.length_take, List.length_cons, List.length_nil] at two
      rw [List.length_cons]
      omega
    · exact Nat.succ_le_succ (Nat.zero_le _)
  | case4 c rest unguarded further broken =>
    rw [Opening.closeWidth?.eq_3 opening c rest unguarded, if_neg further, if_pos broken] at closes
    cases closes
  | case5 c rest unguarded further whole ih =>
    rw [Opening.closeWidth?.eq_3 opening c rest unguarded, if_neg further, if_neg whole] at closes
    obtain ⟨inner, closed, rfl⟩ := Option.map_eq_some_iff.mp closes
    exact Nat.succ_le_succ (ih closed)

/-- Whether a row ends with a backslash that protects its line break. -/
def endsProtected : List Char → Bool
  | [] => false
  | ['\\', '\n'] => true
  | ['\\', '\r', '\n'] => true
  | '\\' :: _ :: rest => endsProtected rest
  | _ :: rest => endsProtected rest

/-- The width of the complete string literal at the head of a text. -/
def literalWidth? (text : List Char) : Option Nat := do
  let opening ← opening? text
  let close ← opening.closeWidth? (text.drop opening.width)
  return opening.width + close

end ByteRecord.Lexical
