import ByteRecord.Lexical.StringForm

/-! Where string literals close. A literal closes within its own text, so what follows does not
matter; over line feeds it goes on row by row. -/
namespace ByteRecord.Lexical
variable {opening : Opening}

theorem of_isStringPrefix (known : isStringPrefix letters) :
    ∀ c ∈ letters, c.toLower ∈ ['b', 'r', 'u', 'f'] := by
  have all : ["", "b", "r", "u", "f", "br", "rb", "fr", "rf"].all
      (fun known => known.toList.all (['b', 'r', 'u', 'f'].contains ·)) = true := by decide +kernel
  intro c present
  have each := List.all_eq_true.mp all _ (List.contains_iff_mem.mp known)
  rw [String.toList_ofList] at each
  exact List.contains_iff_mem.mp (List.all_eq_true.mp each _ (List.mem_map_of_mem present))

theorem quote_of_openingAfter? (opens : openingAfter? letters rest = some opening) :
    opening.quote = '\'' ∨ opening.quote = '"' := by
  unfold openingAfter? at opens
  split at opens
  · split at opens
    · next q _ _ quoted =>
      cases opens
      simpa using (Bool.and_eq_true_iff.mp quoted).1
    · cases opens
  · cases opens

/-- A literal opens right away, or behind one letter, or behind two. -/
theorem openingAfter?_of_opening? (opens : opening? text = some opening) :
    openingAfter? [] text = some opening ∨
      openingAfter? (text.take 1) (text.drop 1) = some opening ∨
      openingAfter? (text.take 2) (text.drop 2) = some opening := by
  rw [opening?] at opens
  cases first : openingAfter? [] text with
  | some other =>
    rw [first] at opens
    exact .inl opens
  | none =>
    cases second : openingAfter? (text.take 1) (text.drop 1) with
    | some other =>
      rw [first, second] at opens
      exact .inr (.inl opens)
    | none =>
      rw [first, second] at opens
      exact .inr (.inr opens)

theorem quote_of_opening? (opens : opening? text = some opening) :
    opening.quote = '\'' ∨ opening.quote = '"' := by
  rcases openingAfter?_of_opening? opens with opens | opens | opens <;>
    exact quote_of_openingAfter? opens

/-- The text of a literal behind its opening quotes, up to and with those that close it. -/
inductive IsBody (opening : Opening) : List Char → Prop
  | single (one : opening.triple = false) : IsBody opening [opening.quote]
  | triple (three : opening.triple = true) :
    IsBody opening [opening.quote, opening.quote, opening.quote]
  | guarded (rest : IsBody opening body) : IsBody opening ('\\' :: c :: body)
  | further (plain : c ≠ '\\')
      (goes_on : c = opening.quote → opening.triple = true ∧
        body.take 2 ≠ [opening.quote, opening.quote])
      (unbroken : c = '\n' → opening.triple = true) (rest : IsBody opening body) :
    IsBody opening (c :: body)

namespace IsBody

theorem three_le (own : IsBody opening body) (three : opening.triple = true) :
    3 ≤ body.length := by
  induction own with
  | single one =>
    rw [three] at one
    cases one
  | triple => exact Nat.le_refl 3
  | guarded _ ih => exact Nat.le_succ_of_le (Nat.le_succ_of_le ih)
  | further _ _ _ _ ih => exact Nat.le_succ_of_le ih

theorem getLast? (own : IsBody opening body) : body.getLast? = some opening.quote := by
  have behind {c : Char} {body : List Char} (later : body.getLast? = some opening.quote) :
      (c :: body).getLast? = some opening.quote := by
    cases body with
    | nil => cases later
    | cons d body => rwa [List.getLast?_cons_cons]
  induction own with
  | single => rfl
  | triple => rfl
  | guarded _ ih => exact behind (behind ih)
  | further _ _ _ _ ih => exact behind ih

theorem take_two (own : IsBody opening body) (three : opening.triple = true)
    (behind : List Char) : (body ++ behind).take 2 = body.take 2 :=
  List.take_append_of_le_length (Nat.le_of_succ_le (own.three_le three))

theorem closeWidth? (own : IsBody opening body) (quoted : opening.quote ≠ '\\')
    (behind : List Char) : opening.closeWidth? (body ++ behind) = some body.length := by
  induction own with
  | single one =>
    rw [List.singleton_append, Opening.closeWidth?.eq_3, one]
    · simp
    · exact fun _ _ same => absurd same quoted
  | triple three =>
    rw [List.cons_append, Opening.closeWidth?.eq_3, three]
    · simp
    · exact fun _ _ same => absurd same quoted
  | guarded _ ih =>
    rw [List.cons_append, List.cons_append, Opening.closeWidth?, ih]
    rfl
  | @further c body plain goes_on unbroken rest ih =>
    rw [List.cons_append, Opening.closeWidth?.eq_3 opening c _ fun _ _ same => absurd same plain,
      if_neg, if_neg, ih]
    · rfl
    · simp only [Bool.and_eq_true, beq_iff_eq, Bool.not_eq_true', not_and, Bool.not_eq_false]
      exact unbroken
    · simp only [Bool.and_eq_true, Bool.or_eq_true, beq_iff_eq, Bool.not_eq_true', not_and, not_or,
        Bool.not_eq_false]
      intro same
      obtain ⟨three, open_⟩ := goes_on same
      exact ⟨three, by rwa [rest.take_two three]⟩

end IsBody

theorem isBody_of_closeWidth? (closes : opening.closeWidth? text = some width) :
    ∃ body behind, text = body ++ behind ∧ body.length = width ∧ IsBody opening body := by
  induction text using Opening.closeWidth?.induct opening generalizing width with
  | case1 => cases closes
  | case2 guarded rest ih =>
    rw [Opening.closeWidth?] at closes
    obtain ⟨inner, closed, rfl⟩ := Option.map_eq_some_iff.mp closes
    obtain ⟨body, behind, rfl, rfl, own⟩ := ih closed
    exact ⟨_ :: _ :: body, behind, rfl, rfl, .guarded own⟩
  | case3 c rest unguarded closing =>
    rw [Opening.closeWidth?.eq_3 opening c rest unguarded, if_pos closing] at closes
    simp only [Bool.and_eq_true, Bool.or_eq_true, beq_iff_eq, Bool.not_eq_true'] at closing
    obtain ⟨rfl, closing⟩ := closing
    cases three : opening.triple with
    | false =>
      rw [three] at closes
      cases closes
      exact ⟨[_], rest, rfl, rfl, .single three⟩
    | true =>
      rw [three] at closes closing
      cases closes
      have two := closing.resolve_left (by decide)
      refine ⟨opening.quote :: rest.take 2, rest.drop 2, ?_, ?_, ?_⟩
      · rw [List.cons_append, List.take_append_drop]
      · rw [two]
        rfl
      · rw [two]
        exact .triple three
  | case4 c rest unguarded further broken =>
    rw [Opening.closeWidth?.eq_3 opening c rest unguarded, if_neg further, if_pos broken] at closes
    cases closes
  | case5 c rest unguarded further whole ih =>
    rw [Opening.closeWidth?.eq_3 opening c rest unguarded, if_neg further, if_neg whole] at closes
    obtain ⟨inner, closed, rfl⟩ := Option.map_eq_some_iff.mp closes
    obtain ⟨body, behind, rfl, rfl, own⟩ := ih closed
    simp only [Bool.and_eq_true, Bool.or_eq_true, beq_iff_eq, Bool.not_eq_true', not_and, not_or,
      Bool.not_eq_false] at further whole
    refine ⟨c :: body, behind, rfl, rfl, .further ?_ ?_ whole own⟩
    · rintro rfl
      cases both : body ++ behind with
      | nil =>
        rw [both] at closed
        cases closed
      | cons d more => exact unguarded d more rfl both
    · intro same
      obtain ⟨three, open_⟩ := further same
      exact ⟨three, by rwa [← own.take_two three behind]⟩

theorem isStringPrefix_of_openingAfter? (opens : openingAfter? letters rest = some opening) :
    isStringPrefix letters := by
  unfold openingAfter? at opens
  split at opens
  · split at opens
    · next quoted => exact (Bool.and_eq_true_iff.mp quoted).2
    · cases opens
  · cases opens

theorem first_of_opening? (opens : opening? (c :: rest) = some opening) :
    c = '\'' ∨ c = '"' ∨ c.toLower ∈ ['b', 'r', 'u', 'f'] := by
  have letter {letters rest : List Char} (present : c ∈ letters)
      (opens : openingAfter? letters rest = some opening) : c.toLower ∈ ['b', 'r', 'u', 'f'] :=
    of_isStringPrefix (isStringPrefix_of_openingAfter? opens) c present
  rcases openingAfter?_of_opening? opens with opens | opens | opens
  · unfold openingAfter? at opens
    split at opens
    · next same =>
      cases same
      split at opens
      · next quoted =>
        have quote : c = '\'' ∨ c = '"' := by simpa using (Bool.and_eq_true_iff.mp quoted).1
        exact quote.imp_right .inl
      · cases opens
    · cases opens
  · exact .inr (.inr (letter List.mem_cons_self opens))
  · exact .inr (.inr (letter List.mem_cons_self opens))

theorem quote_ne_backslash (opens : opening? text = some opening) : opening.quote ≠ '\\' := by
  rcases quote_of_opening? opens with same | same <;> rw [same] <;> decide

theorem quote_ne_lineFeed (opens : opening? text = some opening) : opening.quote ≠ '\n' := by
  rcases quote_of_opening? opens with same | same <;> rw [same] <;> decide

/-- A literal that closes does so in front of any text. -/
theorem closeWidth?_append (quoted : opening.quote ≠ '\\')
    (closes : opening.closeWidth? text = some width) (behind : List Char) :
    opening.closeWidth? (text ++ behind) = some width := by
  obtain ⟨body, rest, rfl, rfl, own⟩ := isBody_of_closeWidth? closes
  rw [List.append_assoc]
  exact own.closeWidth? quoted _

theorem isBody_iff (quoted : opening.quote ≠ '\\') (behind : List Char) :
    opening.closeWidth? (body ++ behind) = some body.length ↔ IsBody opening body := by
  refine ⟨fun closes => ?_, fun own => own.closeWidth? quoted behind⟩
  obtain ⟨other, rest, same, width, own⟩ := isBody_of_closeWidth? closes
  rwa [(List.append_inj same width.symm).1]

theorem endsProtected_cons (plain : c ≠ '\\') (later : endsProtected rest = true) :
    endsProtected (c :: rest) = true := by
  unfold endsProtected
  split <;> simp_all

theorem endsProtected_guarded (later : endsProtected rest = true) (c : Char) :
    endsProtected ('\\' :: c :: rest) = true := by
  unfold endsProtected
  split
  · next same => cases same
  · rfl
  · rfl
  · next same =>
    cases same
    exact later
  · next other same =>
    cases same
    exact absurd rfl (other c rest rfl)

/-- A literal that goes on behind a line feed is in three quotes, or the line feed is protected. -/
theorem IsBody.behind_lineFeed (own : IsBody opening (row ++ rest))
    (no_break : opening.quote ≠ '\n') (ends : row.getLast? = some '\n') :
    IsBody opening rest ∧ (opening.triple = true ∨ endsProtected row = true) := by
  generalize same : row ++ rest = body at own
  -- the line feed is none of the closing quotes
  have not_quotes {row quotes : List Char} (ends : row.getLast? = some '\n')
      (same : row ++ rest = quotes) (all : ∀ c ∈ quotes, c = opening.quote) : False := by
    have present : '\n' ∈ quotes := by
      rw [← same]
      exact List.mem_append_left _ (List.mem_of_getLast? ends)
    exact no_break (all _ present).symm
  induction own generalizing row with
  | single => exact (not_quotes ends same (by simp)).elim
  | triple => exact (not_quotes ends same (by simp)).elim
  | @guarded body c own ih =>
    match row with
    | [] => cases ends
    | [d] =>
      cases ends
      cases same
    | [d, e] =>
      cases ends
      cases same
      exact ⟨own, .inr rfl⟩
    | d :: e :: f :: row =>
      simp only [List.cons_append, List.cons.injEq] at same
      obtain ⟨rfl, rfl, behind⟩ := same
      rw [List.getLast?_cons_cons, List.getLast?_cons_cons] at ends
      obtain ⟨later, open_⟩ := ih ends behind
      exact ⟨later, open_.imp_right fun protected_ => endsProtected_guarded protected_ _⟩
  | @further c body plain goes_on unbroken own ih =>
    match row with
    | [] => cases ends
    | [d] =>
      cases ends
      cases same
      exact ⟨own, .inl (unbroken rfl)⟩
    | d :: e :: row =>
      obtain ⟨rfl, behind⟩ := List.cons.inj same
      rw [List.getLast?_cons_cons] at ends
      obtain ⟨later, open_⟩ := ih ends behind
      exact ⟨later, open_.imp_right (endsProtected_cons plain)⟩

/-- Characters that a literal in double quotes holds as they are. -/
def IsVerbatim (text : List Char) : Prop :=
  ∀ c ∈ text, c ≠ '"' ∧ c ≠ '\\' ∧ c ≠ '\n' ∧ c ≠ '\r'

theorem opening?_quoted (verbatim : IsVerbatim text) (apart : ∀ c ∈ rest.head?, c ≠ '"') :
    opening? ('"' :: text ++ '"' :: rest) = some ⟨[], '"', false⟩ := by
  have right_away : openingAfter? [] ('"' :: text ++ '"' :: rest) = some ⟨[], '"', false⟩ := by
    match text with
    | [] =>
      match rest with
      | [] => rfl
      | c :: rest =>
        have other : (c == '"') = false := by simpa using apart c rfl
        simp [openingAfter?, other, isStringPrefix]
    | [c] =>
      have other : (c == '"') = false := by simpa using (verbatim c List.mem_cons_self).1
      simp [openingAfter?, other, isStringPrefix]
    | c :: d :: text =>
      have other : (c == '"') = false := by simpa using (verbatim c List.mem_cons_self).1
      simp [openingAfter?, other, isStringPrefix]
  rw [opening?, right_away]
  rfl

theorem isBody_quoted (verbatim : IsVerbatim text) :
    IsBody ⟨[], '"', false⟩ (text ++ ['"']) := by
  induction text with
  | nil => exact .single rfl
  | cons c text ih =>
    obtain ⟨no_quote, no_guard, no_break, -⟩ := verbatim c List.mem_cons_self
    exact .further no_guard (fun same => absurd same no_quote) (fun same => absurd same no_break)
      (ih fun d present => verbatim d (List.mem_cons_of_mem c present))

theorem literalWidth?_quoted (verbatim : IsVerbatim text) (apart : ∀ c ∈ rest.head?, c ≠ '"') :
    literalWidth? ('"' :: text ++ '"' :: rest) = some ('"' :: text ++ ['"']).length := by
  have closes := (isBody_quoted verbatim).closeWidth? (by decide) rest
  have parts : text ++ '"' :: rest = text ++ ['"'] ++ rest := by simp
  rw [literalWidth?, opening?_quoted verbatim apart]
  simp only [Option.bind_eq_bind, Option.bind_some]
  change (Opening.closeWidth? ⟨[], '"', false⟩ (text ++ '"' :: rest)).bind _ = _
  rw [parts, closes]
  change some (1 + (text ++ ['"']).length) = _
  rw [List.cons_append, List.length_cons, Nat.add_comm]

end ByteRecord.Lexical
