import ByteRecord.Proofs.Pattern.Surfaces

/-! What a catalogue document takes as a pattern: the forms that it provides for, and what it hands
on unchecked to conversions that make bytes of it all the same. -/
namespace ByteRecord.Catalogue
open Pattern (HexText slotMatcher)

/-- A value that stands for a matcher in any array. No document holds a function. -/
inductive ItemMeans : Value → Matcher → Prop
  | none : ItemMeans .none .wildcard
  | underscore : ItemMeans (.str "_") .wildcard
  | byte (natural : 0 ≤ n) (small : n ≤ 255) : ItemMeans (.int n) (.exact n)
  | function (callable : value.isCallable) :
    ItemMeans value (.deferred ⟨value.functionName?.getD value.quotedText, .inr value, none⟩)

/-- An element of a list, where a text is an expression. -/
inductive ElementMeans : Value → Matcher → Prop
  | item (own : ItemMeans value matcher) : ElementMeans value matcher
  | expression (other : source ≠ "_") (fixed : source ≠ "..")
      (compiled : Expr.compile source.toList = .ok code) :
    ElementMeans (.str source) (.deferred ⟨source, .inl code, none⟩)

/-- The forms that a catalogue provides for. -/
inductive Denotes : Value → Pattern → Prop
  | text (written : HexText slots digits.toList) :
    Denotes (.str digits) ⟨slots.map slotMatcher, .hex⟩
  | list (each : List.Forall₂ ElementMeans items meant) : Denotes (.list items) ⟨meant, .array⟩
  | bytes (given : Value.lookup? entries (.str "bytes") = some (.str chars))
      (narrow : ∀ c ∈ chars.toList, c.toNat ≤ 255) :
    Denotes (.dict entries) ⟨chars.toList.map fun c => .exact c.toNat, .bytes⟩
  | hex (other : Value.lookup? entries (.str "bytes") = none)
      (given : Value.lookup? entries (.str "hex") = some (.str digits))
      (written : HexText slots digits.toList) :
    Denotes (.dict entries) ⟨slots.map slotMatcher, .hex⟩

section
variable {pattern : Pattern}

theorem codeOf_ok_iff {text : List Char} :
    Expression.codeOf location kind text = .ok code ↔ Expr.compile text = .ok code := by
  unfold Expression.codeOf
  split
  · next compiled => rw [compiled, Except.ok.injEq, Except.ok.injEq]
  · next compiled =>
    rw [compiled]
    exact ⟨nofun, nofun⟩

theorem toMatcher_ok_iff {value : Value} :
    (Pattern.Element.value value).toMatcher = .ok matcher ↔ ItemMeans value matcher := by
  constructor
  · intro made
    unfold Pattern.Element.toMatcher at made
    dsimp only at made
    split at made
    · cases made
      exact .none
    · cases made
      exact .underscore
    iterate 5 cases made
    · obtain ⟨natural, small, rfl⟩ := Pattern.exactByte_ok_iff.mp made
      exact .byte natural small
    · split at made
      · next callable =>
        cases made
        exact .function callable
      · cases made
  · intro means
    cases means with
    | none => rfl
    | underscore => rfl
    | byte natural small => exact Pattern.exactByte_ok_iff.mpr ⟨natural, small, rfl⟩
    | function callable =>
      cases value
      all_goals first | rfl | exact absurd callable Bool.false_ne_true

theorem elementMatcher_ok_iff {value : Value} :
    elementMatcher value = .ok matcher ↔ ElementMeans value matcher := by
  constructor
  · intro made
    unfold elementMatcher at made
    split at made
    · exact .item (toMatcher_ok_iff.mp made)
    · exact .item (toMatcher_ok_iff.mp made)
    · next source other fixed =>
      obtain ⟨code, compiled, made⟩ := bind_ok_iff.mp made
      cases made
      exact .expression (fun same => other same) (fun same => fixed same)
        (codeOf_ok_iff.mp compiled)
    · exact .item (toMatcher_ok_iff.mp made)
  · intro means
    cases means with
    | item own =>
      have made := toMatcher_ok_iff.mpr own
      unfold elementMatcher
      split
      · exact made
      · exact made
      · next source other fixed =>
        cases own with
        | underscore => exact absurd rfl other
        | function callable => cases callable
      · exact made
    | @expression source _ other fixed compiled =>
      unfold elementMatcher
      split
      · next same => exact absurd (Value.str.inj same) other
      · next same => exact absurd (Value.str.inj same) fixed
      · next same =>
        cases same
        exact bind_ok_iff.mpr ⟨_, codeOf_ok_iff.mpr compiled, rfl⟩
      · next text => exact absurd rfl (text source)

end

end ByteRecord.Catalogue
