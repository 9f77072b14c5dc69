import Mathlib.Data.List.Chain
import ByteRecord.Proofs.Plan.WellFormed
import ByteRecord.Proofs.Specification.Printed

/-! Compiling a printed record gives the record back: the text describes the same plan as the
fields that it was printed from. -/
namespace ByteRecord.Source
open Text

/-- The characters that end a line in the widest sense. -/
def lineBreaks : List Char :=
  ['\n', '\x0b', '\x0c', '\r', '\x1c', '\x1d', '\x1e', '\u0085', '\u2028', '\u2029']

theorem mem_lineBreaks (breaks : isLineBreak c) : c ∈ lineBreaks := by
  have named {n : Nat} (same : c.toNat = n) : c = Char.ofNat n := by rw [← same, Char.ofNat_toNat]
  have number : c.toNat ∈ [10, 11, 12, 13, 28, 29, 30, 0x85, 0x2028, 0x2029] := by
    simp only [isLineBreak, Bool.or_eq_true, Bool.and_eq_true, decide_eq_true_eq, beq_iff_eq] at breaks
    simp only [List.mem_cons, List.not_mem_nil, or_false]
    omega
  have char : c ∈ [10, 11, 12, 13, 28, 29, 30, 0x85, 0x2028, 0x2029].map Char.ofNat :=
    List.mem_map.mpr ⟨_, number, Char.ofNat_toNat c⟩
  exact char

/-- A text of characters of a kind that no line break is of. -/
theorem OnlyLineFeeds.of_all {p : Char → Bool} (all : ∀ c ∈ text, p c)
    (none : lineBreaks.all (fun c => !p c || c == '\n') = true := by decide +kernel) :
    OnlyLineFeeds text := by
  intro c present breaks
  have other := List.all_eq_true.mp none c (mem_lineBreaks breaks)
  simpa [all c present] using other

theorem OnlyLineFeeds.append (first : OnlyLineFeeds text) (second : OnlyLineFeeds rest) :
    OnlyLineFeeds (text ++ rest) :=
  fun c present => (List.mem_append.mp present).elim (first c) (second c)

theorem IsGap.clean (own : IsGap gap) : OnlyLineFeeds gap :=
  .of_all (p := fun c => c == ' ' || c == '\t' || c == '\n')
    fun c present => by simpa [or_assoc] using own c present

theorem IsSpaced.clean (own : IsSpaced mark joint) (inner : OnlyLineFeeds mark) :
    OnlyLineFeeds joint := by
  cases own with
  | spaced before behind => exact before.clean.append (inner.append behind.clean)

theorem clean_marks (own : mark.all marks.contains = true) : OnlyLineFeeds mark :=
  .of_all (List.all_eq_true.mp own)

theorem clean_word (word : ∀ c ∈ name, isWord c) : OnlyLineFeeds name := by
  refine .of_all word ?_
  simp only [isWord, Ranges.contains_eq_any]
  decide +kernel

end ByteRecord.Source

namespace ByteRecord.Phrase
open Source Text

theorem PrintsMember.clean (own : PrintsMember member text) : OnlyLineFeeds text := by
  cases own with
  | none => exact .of_all (p := (· == '_')) (List.all_eq_true.mp rfl)
  | name free ascii => exact clean_word (Phrase.isWord_of_isFreeName free ascii)
  | position =>
    exact .of_all (p := isAsciiDigit) fun c => Number.isAsciiDigit_of_mem_natText

theorem PrintsPattern.clean (own : PrintsPattern pattern text) : OnlyLineFeeds text := by
  cases own with
  | hex plain =>
    refine .of_all (p := fun c => isHexPart c || c == '"') fun c present => ?_
    rcases List.mem_append.mp present with front | last
    · rcases List.mem_cons.mp front with rfl | inside
      · rfl
      · simp [plain c inside]
    · simp [List.mem_singleton.mp last]

theorem PrintsTransform.clean (own : PrintsTransform pattern e text) : OnlyLineFeeds text := by
  cases own with
  | arrow own sign value =>
    exact own.clean.append ((sign.clean (clean_marks rfl)).append value.clean)

theorem PrintsField.clean (own : PrintsField field text) : OnlyLineFeeds text := by
  have colon {joint : List Char} (separated : IsSpaced [':'] joint) : OnlyLineFeeds joint :=
    separated.clean (clean_marks rfl)
  cases own with
  | matched named separated own =>
    exact named.clean.append ((colon separated).append own.clean)
  | transformed named separated own =>
    exact named.clean.append ((colon separated).append own.clean)
  | bound named separated free ascii binds own =>
    exact named.clean.append ((colon separated).append
      ((clean_word (isWord_of_isFreeName free ascii)).append
        ((binds.clean (clean_marks rfl)).append own.clean)))

theorem PrintsBody.clean (own : PrintsBody fields text) : OnlyLineFeeds text := by
  induction own with
  | empty => exact nofun
  | last own behind => exact own.clean.append behind.clean
  | further own separated _ ih =>
    exact own.clean.append ((separated.clean (clean_marks rfl)).append ih)

theorem PrintsRecord.clean (own : PrintsRecord name fields source) : OnlyLineFeeds source := by
  cases own with
  | @braces before text first word gap own =>
    have opening : OnlyLineFeeds [' ', '\x7b'] := .of_all (p := [' ', '\x7b'].contains) (List.all_eq_true.mp rfl)
    have closing : OnlyLineFeeds ['\x7d'] := clean_marks rfl
    exact (clean_word word).append
      (opening.append (gap.clean.append (own.clean.append closing)))

theorem PrintsField.deferred_eq_nil (own : PrintsField field text) :
    field.pattern.deferred = [] := by
  have of_pattern {pattern : Pattern} {text : List Char} (own : PrintsPattern pattern text) :
      pattern.deferred = [] := by
    cases own with
    | hex _ _ _ same =>
      rw [Pattern.deferred, same, List.filterMap_eq_nil_iff]
      intro matcher present
      obtain ⟨token, -, rfl⟩ := List.mem_map.mp present
      cases token <;> rfl
  have of_transform {pattern : Pattern} {e : Expression} {text : List Char}
      (own : PrintsTransform pattern e text) : pattern.deferred = [] := by
    cases own with
    | arrow own => exact of_pattern own
  cases own with
  | matched _ _ own => exact of_pattern own
  | transformed _ _ own => exact of_transform own
  | bound _ _ _ _ _ own => exact of_transform own

theorem PrintsBody.deferred_eq_nil (own : PrintsBody fields text) :
    ∀ field ∈ fields, field.pattern.deferred = [] := by
  induction own with
  | empty => exact nofun
  | last own => exact List.forall_mem_singleton.mpr own.deferred_eq_nil
  | further own _ _ ih => exact List.forall_mem_cons.mpr ⟨own.deferred_eq_nil, ih⟩

theorem map_eq_of_alike {fields others : List Field} (alike : List.Forall₂ Alike fields others)
    (part : Field → β) (own : ∀ {field other}, Alike field other → part other = part field) :
    others.map part = fields.map part := by
  induction alike with
  | nil => rfl
  | cons same _ ih => rw [List.map_cons, List.map_cons, own same, ih]

end ByteRecord.Phrase

namespace ByteRecord.Layout

theorem check_of_members_eq (same : others.map Field.member = fields.map Field.member)
    (layout : check fields = .ok ()) : check others = .ok () := by
  have apart (fields : List Field) : SkipsApart fields ↔
      (fields.map Field.member).IsChain fun first second => first.isSome ∨ second.isSome := by
    rw [SkipsApart, List.isChain_map]
    rfl
  have members (fields : List Field) :
      fields.filterMap Field.member = (fields.map Field.member).filterMap id := by
    rw [List.filterMap_map]
    rfl
  have numbers (fields : List Field) :
      positions fields = (fields.map Field.member).filterMap (·.bind Member.position?) := by
    rw [List.filterMap_map]
    rfl
  rw [check_ok_iff, apart, members, PositionsFilled, numbers] at layout ⊢
  rwa [same]

end ByteRecord.Layout

namespace ByteRecord.Plan
open Source Phrase

/-- Plans for the same record: only the form of their patterns, the places of their fields and their
names may differ. -/
structure Alike (plan other : Plan) : Prop where
  target : plan.target = other.target
  members : plan.members = other.members
  kinds : plan.fields.map Field.isMember = other.fields.map Field.isMember
  bindings : plan.fields.map Field.binding = other.fields.map Field.binding
  matchers : plan.fields.map (·.pattern.matchers) = other.fields.map (·.pattern.matchers)
  transforms : plan.fields.map (·.transform.map Transform.text) =
    other.fields.map (·.transform.map Transform.text)
  size : plan.size = other.size
  bufferSize : plan.bufferSize = other.bufferSize

theorem alike_of_fields {fields others : List Field}
    (alike : List.Forall₂ Phrase.Alike fields others) (target : Target) (scope : Scope)
    (name name' : Value) :
    Alike ⟨target, others, none, scope, none, name⟩ ⟨target, fields, none, scope, none, name'⟩ := by
  have members := map_eq_of_alike alike Field.member (·.member)
  have sizes := map_eq_of_alike alike Field.size fun same =>
    congrArg List.length same.matchers
  have filtered (fields : List Field) :
      fields.filterMap Field.member = (fields.map Field.member).filterMap id := by
    rw [List.filterMap_map]
    rfl
  exact {
    target := rfl
    members := (filtered others).trans ((congrArg _ members).trans (filtered fields).symm)
    kinds := map_eq_of_alike alike _ fun same => congrArg Option.isSome same.member
    bindings := map_eq_of_alike alike _ (·.binding)
    matchers := map_eq_of_alike alike _ (·.matchers)
    transforms := map_eq_of_alike alike _ (·.transform)
    size := congrArg (List.foldr (· + ·) 0) sizes
    bufferSize := congrArg (List.foldl max 0) sizes }

/-- The text that is printed for a record is compiled to a plan like the one that is made of the
fields themselves. -/
theorem ofText_printed {scope : Scope} {fields : List Field} {target source : List Char}
    (layout : Layout.check fields = .ok ()) (printed : PrintsRecord target fields source)
    (resolved : resolvePath scope [String.ofList target] = .ok value)
    (interpreter : Interpreter σ) (name : Value) (state : σ) :
    ∃ plan built,
      (ofText interpreter scope (String.ofList source)).run state = (.ok plan, state) ∧
      (build interpreter (.call value) fields none scope none name).run state =
        (.ok built, state) ∧ Alike plan built := by
  obtain ⟨tokens, others, scanned, phrase, alike⟩ := printed.tokenize resolved
  have faces : Cursor.Faces ⟨source, tokens, 0⟩ tokens :=
    Cursor.faces_of_tokenize scanned printed.clean
  obtain ⟨after, read⟩ := (run_readDeclaration_iff faces).mpr phrase
  have fixed : ∀ field ∈ fields, field.pattern.deferred = [] := by
    cases printed with
    | braces _ _ _ own => exact own.deferred_eq_nil
  have fixed' : ∀ other ∈ others, other.pattern.deferred = [] := by
    have same := map_eq_of_alike alike (·.pattern.deferred) fun same => by
      rw [Pattern.deferred, Pattern.deferred, same.matchers]
    intro other present
    have elsewhere := List.mem_map_of_mem (f := (·.pattern.deferred)) present
    rw [same] at elsewhere
    obtain ⟨field, present, own⟩ := List.mem_map.mp elsewhere
    exact own.symm.trans (fixed field present)
  have layout' := Layout.check_of_members_eq (map_eq_of_alike alike _ (·.member)) layout
  have found : Cursor.ofText source = .ok ⟨source, tokens, 0⟩ := by rw [Cursor.ofText, scanned]
  have compiled : ∃ label, (ofText interpreter scope (String.ofList source)).run state =
      (.ok ⟨.call value, others, none, scope, none, label⟩, state) := by
    rw [ofText, String.toList_ofList]
    refine ⟨_, run_bind_ok_iff.mpr ⟨_, state, (run_lift _ _).trans (congrArg (·, _) found),
      run_bind_ok_iff.mpr ⟨⟨none, [String.ofList target], value, others, none⟩, state,
        (run_lift _ _).trans (congrArg (·, _) (congrArg Prod.fst read)),
        run_build layout' fixed' interpreter _ _ _ _ _ _⟩⟩⟩
  obtain ⟨label, compiled⟩ := compiled
  exact ⟨_, _, compiled, run_build layout fixed interpreter _ _ _ _ _ _,
    alike_of_fields alike (.call value) scope _ _⟩

/-- The general statement at a text with blanks between its tokens, a transform over two lines and a
comma behind the last field. -/
theorem ofText_printed_lines :
    let source := "dict \x7b\n _ :\t\"48 __\",\n  a: raw @ \"aB\" => len(\nraw)\t, \x7d".toList
    ∃ fields value, Layout.check fields = .ok () ∧ PrintsRecord "dict".toList fields source ∧
      resolvePath .empty [String.ofList "dict".toList] = .ok value ∧
      ∃ plan built, (ofText .standard .empty (String.ofList source)).run (fun _ => 0) =
          (.ok plan, fun _ => 0) ∧
        (build .standard (.call value) fields none .empty none .none).run (fun _ => 0) =
          (.ok built, fun _ => 0) ∧
        Alike plan built ∧ built.members = [.name "a"] ∧ built.size = 3 := by
  intro source
  have ok_of_some {ε α : Type} {result : Except ε α} (some_value : result.toOption.isSome) :
      ∃ value, result = .ok value := by
    cases result with
    | error => cases some_value
    | ok value => exact ⟨value, rfl⟩
  obtain ⟨code, compiled⟩ : ∃ code, Expr.compile "len(\nraw)".toList = .ok code :=
    ok_of_some (by decide +kernel)
  obtain ⟨value, resolved⟩ : ∃ value, resolvePath .empty [String.ofList "dict".toList] = .ok value :=
    ok_of_some (by decide +kernel)
  let e : Expression := ⟨.str "len(\nraw)", code, none⟩
  let matched : Field := ⟨none, ⟨[.exact 0x48, .wildcard], .array⟩, none, none, none⟩
  let bound : Field :=
    ⟨some (.name "a"), ⟨[.exact 0xab], .bytes⟩, some "raw", some (.expression e), none⟩
  have spelt : Spells true ⟨1, 0⟩ 1
      (['l', 'e', 'n'] ++ (['('] ++ '\n' :: (['r', 'a', 'w'] ++ ([')'] ++ []))))
      [⟨.name, "len", ⟨1, 0⟩, ⟨1, 3⟩⟩, ⟨.op, "(", ⟨1, 3⟩, ⟨1, 4⟩⟩,
        ⟨.name, "raw", ⟨2, 0⟩, ⟨2, 3⟩⟩, ⟨.op, ")", ⟨2, 3⟩, ⟨2, 4⟩⟩] :=
    .word rfl rfl (.word rfl rfl (.lineFeed (by decide) (.word rfl rfl (.word rfl rfl .nil))))
  have gap {text : List Char}
      (own : text.all (fun c => c == ' ' || c == '\t' || c == '\n') = true) : IsGap text := by
    simpa [IsGap, or_assoc] using own
  have clean : OnlyLineFeeds "len(\nraw)".toList :=
    .of_all (p := ['l', 'e', 'n', '(', '\n', 'r', 'a', 'w', ')'].contains) (List.all_eq_true.mp rfl)
  have value_text : PrintsExpression e "len(\nraw)".toList :=
    ⟨rfl, compiled, ⟨_, List.cons_ne_nil _ _, by simp only [IsRun]; decide, spelt⟩, rfl, clean⟩
  have any : PrintsPattern matched.pattern ('"' :: ['4', '8', ' ', '_', '_'] ++ ['"']) :=
    .hex (List.all_eq_true.mp rfl) rfl (by decide) rfl
  have fixed : PrintsPattern bound.pattern ('"' :: ['a', 'B'] ++ ['"']) :=
    .hex (List.all_eq_true.mp rfl) rfl (by decide) rfl
  have spaced (before mark behind : List Char)
      (own : (before ++ behind).all (fun c => c == ' ' || c == '\t' || c == '\n') = true) :
      IsSpaced mark (before ++ (mark ++ behind)) := by
    rw [List.all_append, Bool.and_eq_true] at own
    exact .spaced (gap own.1) (gap own.2)
  have first : PrintsField matched _ := .matched .none (spaced [' '] [':'] ['\t'] rfl) any
  have name : PrintsMember (some (.name "a")) "a".toList :=
    .name (by decide) (List.all_eq_true.mp rfl) (by decide)
  have second : PrintsField bound _ :=
    .bound name (spaced [] [':'] [' '] rfl) (by decide) (List.all_eq_true.mp rfl)
      (spaced [' '] ['@'] [' '] rfl) (.arrow fixed (spaced [' '] ['=', '>'] [' '] rfl) value_text)
  have body : PrintsBody [matched, bound] _ :=
    .further first (spaced [] [','] ['\n', ' ', ' '] rfl)
      (.further second (spaced ['\t'] [','] [' '] rfl) .empty)
  have printed : PrintsRecord "dict".toList [matched, bound] source :=
    @PrintsRecord.braces _ _ ['\n', ' '] _ rfl (List.all_eq_true.mp rfl) (gap rfl) body
  have layout : Layout.check [matched, bound] = .ok () := rfl
  obtain ⟨plan, built, text, fields, alike⟩ :=
    ofText_printed layout printed resolved .standard .none fun _ => 0
  cases (run_build layout (by simp [matched, bound, Pattern.deferred]) _ _ _ _ _ _ _).symm.trans fields
  exact ⟨[matched, bound], value, layout, printed, resolved, plan, _, text, fields, alike, rfl, rfl⟩

end ByteRecord.Plan
