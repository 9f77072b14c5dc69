import ByteRecord.Catalogue.Standard
import ByteRecord.Proofs.Catalogue.Conversions
import ByteRecord.Proofs.Catalogue.Identified
import ByteRecord.Proofs.Record.FixedBytes

/-! Steady formats, which a computation recognizes: their patterns are made of fixed bytes and
wildcards, and their values are the bytes themselves or conversions of as many bytes as they need. No
data disturbs them, so data is identified as those of them whose fixed bytes it shows. -/
namespace ByteRecord
open ByteRecord.Expr (Gives)

namespace Field

/-- Whether the value of a field is its bytes, or a conversion for which these are enough. -/
def storesSteadily (field : Field) : Bool :=
  match field.transform with
  | none => true
  | some (.expression e) =>
    field.binding == some "raw" && (Conversion.ofCode? e.code).any (·.fits field.size)
  | some (.function _) => false

/-- Whether no bytes disturb a field. -/
def isSteady (field : Field) : Bool :=
  field.pattern.matchers.all Matcher.isPlain && field.storesSteadily

variable {field : Field} {world : World Expr.Counts}

theorem plain_of_isSteady (steady : field.isSteady = true) :
    ∀ matcher ∈ field.pattern.matchers, matcher.isPlain = true :=
  List.all_eq_true.mp (Bool.and_eq_true_iff.mp steady).1

theorem deferred_of_isSteady (steady : field.isSteady = true) : field.pattern.deferred = [] :=
  List.eq_nil_iff_forall_not_mem.mpr fun _ computed =>
    nomatch plain_of_isSteady steady _ (Pattern.mem_deferred.mp computed)

theorem run_evaluate_steady (steady : field.isSteady = true)
    (prepared : Conversion.Prepared world.scope) (raw : List UInt8) :
    ∃ result, (field.evaluate .standard raw).run world = (result, world) ∧
      (raw.length = field.size → ∃ value, result = .ok value) := by
  have stores := (Bool.and_eq_true_iff.mp steady).2
  unfold storesSteadily at stores
  unfold evaluate
  split at stores
  · next absent =>
    rw [absent]
    exact ⟨.ok (.bytes raw), rfl, fun _ => ⟨_, rfl⟩⟩
  · next e present =>
    obtain ⟨bound, fits⟩ := Bool.and_eq_true_iff.mp stores
    cases read : Conversion.ofCode? e.code with
    | none =>
      rw [read] at fits
      cases fits
    | some conversion =>
      rw [read] at fits
      have gives := conversion.gives prepared raw world.state
      rw [← Conversion.code_of_ofCode? read, Gives] at gives
      refine ⟨Effect.ofResult (conversion.result raw), ?_, fun size => ?_⟩
      · rw [present, eq_of_beq bound]
        exact Gives.run_evaluateApart gives
      · obtain ⟨value, converted⟩ := Conversion.result_of_fits (size ▸ fits)
        rw [converted]
        exact ⟨value, rfl⟩
  · cases stores

theorem sideEffectFree_of_isSteady (steady : field.isSteady = true)
    (prepared : Conversion.Prepared world.scope) : field.SideEffectFree .standard world where
  elements element computed :=
    nomatch plain_of_isSteady steady _ (Pattern.mem_deferred.mp computed)
  transform raw := by
    obtain ⟨result, ran, -⟩ := run_evaluate_steady steady prepared raw
    rw [Keeps, ran]

theorem stores_of_isSteady (steady : field.isSteady = true)
    (prepared : Conversion.Prepared world.scope) {raw : List UInt8}
    (size : raw.length = field.size) : ∃ value, field.valueOf .standard world raw = .ok value := by
  obtain ⟨result, ran, succeeds⟩ := run_evaluate_steady steady prepared raw
  obtain ⟨value, rfl⟩ := succeeds size
  have own := run_evaluate (sideEffectFree_of_isSteady steady prepared) raw
  rw [ran] at own
  exact ⟨value, (congrArg Prod.fst own).symm⟩

end Field

namespace Format
open Plan

def layout (format : Format) : List Matcher :=
  format.fields.flatMap (·.pattern.matchers)

/-- The byte that a record of the format begins with, if that is fixed. -/
def head? (format : Format) : Option Int :=
  format.layout.head?.bind Matcher.exactValue?

def restIsSteady : Value → Bool
  | .none => true
  | .dict entries => entries.all fun entry => match entry.1 with
    | .str _ => true
    | _ => false
  | _ => false

/-- Whether a format compiles to steady fields, and its rest fills in any record. -/
def isSteady (format : Format) : Bool :=
  match format.planFields with
  | .ok fields =>
    (Layout.check fields).toBool && fields.all Field.isSteady && restIsSteady format.rest
  | .error _ => false

variable {format : Format} {counts : Expr.Counts} {data : List UInt8}

theorem of_restIsSteady {rest : Value} (steady : restIsSteady rest = true) :
    rest = .none ∨ ∃ constants, rest = .dict (textEntries constants) := by
  unfold restIsSteady at steady
  split at steady
  · exact .inl rfl
  · next entries =>
    refine .inr ?_
    induction entries with
    | nil => exact ⟨[], rfl⟩
    | cons entry entries ih =>
      obtain ⟨own, others⟩ := Bool.and_eq_true_iff.mp steady
      obtain ⟨constants, same⟩ := ih others
      obtain ⟨key, value⟩ := entry
      cases key with
      | str text =>
        refine ⟨(text, value) :: constants, ?_⟩
        rw [textEntries, List.map_cons, ← textEntries, ← Value.dict.inj same]
      | _ => cases own
  · cases steady

theorem compile_steady (steady : format.isSteady = true) :
    ∃ plan, (∀ counts, (format.compile .standard .empty).run counts = (.ok plan, counts)) ∧
      plan.scope = scope .empty ∧ ∀ field ∈ plan.fields, field.isSteady = true := by
  unfold isSteady at steady
  split at steady
  · next fields made =>
    simp only [Bool.and_eq_true, List.all_eq_true] at steady
    obtain ⟨⟨checked, each⟩, -⟩ := steady
    have layout : Layout.check fields = .ok () := by
      cases check : Layout.check fields with
      | ok _ => rfl
      | error fault =>
        rw [check] at checked
        cases checked
    exact ⟨_, fun counts => run_bind_ok_iff.mpr ⟨fields, counts, run_lift_ok_iff.mpr ⟨made, rfl⟩,
      run_build layout (fun field present => Field.deferred_of_isSteady (each field present))
        .standard .entries _ (scope .empty) none format.name counts⟩, rfl, each⟩
  · cases steady

theorem rest_of_isSteady (steady : format.isSteady = true) :
    format.rest = .none ∨ ∃ constants, format.rest = .dict (textEntries constants) := by
  unfold isSteady at steady
  split at steady
  · exact of_restIsSteady (Bool.and_eq_true_iff.mp steady).2
  · cases steady

/-- The scope of a format without further names is one in which conversions mean what they should. -/
theorem prepared (counts : Expr.Counts) {plan : Plan} (own : plan.scope = scope .empty) :
    Conversion.Prepared (plan.world .empty counts).scope := by
  rw [world, own]
  exact ⟨rfl, rfl⟩

theorem undisturbed_of_isSteady (steady : format.isSteady = true) (counts : Expr.Counts)
    (data : List UInt8) : format.Undisturbed .standard .empty counts data := by
  obtain ⟨plan, compiles, own, fields⟩ := compile_steady steady
  exact undisturbed_of_fields (compiles counts)
    (fun field present => Field.sideEffectFree_of_isSteady (fields field present) (prepared counts own))
    (fun field present _ => Field.stores_of_isSteady (fields field present) (prepared counts own))
    (rest_of_isSteady steady) data

theorem layout_of_compile {plan : Plan}
    (compiled : (format.compile .standard .empty).run counts = (.ok plan, later)) :
    plan.fields.flatMap (·.pattern.matchers) = format.layout := by
  have each := mapM_ok_iff.mp (compile_parts compiled).1
  have patterns : format.fields.map (·.pattern.matchers) =
      plan.fields.map (·.pattern.matchers) := by
    rw [← List.forall₂_eq_eq_eq, List.forall₂_map_left_iff, List.forall₂_map_right_iff]
    exact each.imp fun _ _ own => by rw [pattern_of_fieldOf own]
  rw [layout, List.flatMap_def, List.flatMap_def, patterns]

theorem parses_iff (steady : format.isSteady = true) :
    format.parses .standard .empty counts data = true ↔
      format.size ≤ data.length ∧ Pattern.Agrees format.layout data := by
  obtain ⟨plan, compiles, own, fields⟩ := compile_steady steady
  obtain ⟨outcome, -, parses, whole⟩ := (undisturbed_of_isSteady steady counts data).outcome
    (congrArg Prod.fst (compiles counts))
  have stores : ∀ field ∈ plan.fields, ∀ raw : List UInt8, raw.length = field.size →
      ∃ value, field.valueOf .standard (plan.world .empty counts) raw = .ok value :=
    fun field present _ =>
      Field.stores_of_isSteady (fields field present) (prepared counts own)
  rw [parses, whole, Field.exists_takenBefore_iff stores,
    Field.allAccept_iff fun field present => Field.plain_of_isSteady (fields field present),
    ← plan.size_eq_offset, (of_compile (compiles counts)).2, layout_of_compile (compiles counts)]

/-- The first byte of data that shows the fixed bytes of a format is the one that it begins with. -/
theorem head_of_agrees (begins : format.head? = some value)
    (agrees : Pattern.Agrees format.layout data) :
    data.head?.map (fun byte => (byte.toNat : Int)) = some value := by
  rw [head?, List.head?_eq_getElem?] at begins
  obtain ⟨matcher, there, exact_value⟩ := Option.bind_eq_some_iff.mp begins
  cases matcher with
  | exact own =>
    cases exact_value
    obtain ⟨byte, first, rfl⟩ := agrees 0 _ there
    rw [List.head?_eq_getElem?, first]
    rfl
  | _ => cases exact_value

end Format

namespace Catalogue.Identifier
open Format Plan
variable {formats : List Format} {data : List UInt8}

/-- Of formats that begin with different bytes, data shows the fixed bytes of at most one. -/
theorem length_filter_le_one {found : Format → Bool} (distinct : (formats.map Format.head?).Nodup)
    (begin : none ∉ formats.map Format.head?)
    (agree : ∀ format ∈ formats, found format = true → Pattern.Agrees format.layout data) :
    (formats.filter found).length ≤ 1 := by
  have first (format : Format) (listed : format ∈ formats.filter found) :
      format.head? = data.head?.map fun byte => (byte.toNat : Int) := by
    obtain ⟨present, chosen⟩ := List.mem_filter.mp listed
    obtain ⟨value, begins⟩ := Option.ne_none_iff_exists'.mp fun (none : format.head? = none) =>
      begin (List.mem_map.mpr ⟨format, present, none⟩)
    rw [begins, head_of_agrees begins (agree format present chosen)]
  -- All that are found begin with the first byte of the data, so two of them would begin alike.
  have same : (formats.filter found).map Format.head? =
      List.replicate (formats.filter found).length
        (data.head?.map fun byte => (byte.toNat : Int)) := by
    refine List.eq_replicate_iff.mpr ⟨List.length_map _, fun head among => ?_⟩
    obtain ⟨format, listed, rfl⟩ := List.mem_map.mp among
    exact first format listed
  have single : ((formats.filter found).map Format.head?).Nodup :=
    distinct.sublist (List.filter_sublist.map _)
  rw [same] at single
  exact List.nodup_replicate.mp single

theorem build_steady (steady : ∀ format ∈ formats, format.isSteady = true) :
    ∃ identifier, ∀ counts,
      (build .standard formats .empty).run counts = (.ok identifier, counts) := by
  let entryOf (format : Format) : Action Expr.Counts (Format × Plan) := do
    return (format, ← format.compile .standard .empty)
  obtain ⟨entries, made⟩ : ∃ entries, ∀ counts,
      (formats.mapM entryOf).run counts = (.ok entries, counts) := by
    induction formats with
    | nil => exact ⟨[], fun _ => rfl⟩
    | cons format formats ih =>
      obtain ⟨own, steady⟩ := List.forall_mem_cons.mp steady
      obtain ⟨plan, compiles, -⟩ := compile_steady own
      obtain ⟨entries, made⟩ := ih steady
      refine ⟨(format, plan) :: entries, fun counts => ?_⟩
      rw [List.mapM_cons]
      exact run_bind_ok_iff.mpr ⟨(format, plan), counts,
        run_bind_ok_iff.mpr ⟨plan, counts, compiles counts, rfl⟩,
        run_bind_ok_iff.mpr ⟨entries, counts, made counts, rfl⟩⟩
  exact ⟨⟨entries⟩, fun counts => run_bind_ok_iff.mpr ⟨entries, counts, made counts, rfl⟩⟩

/-- The formats that data is recognized as: at most one, the fields of which can store the data. -/
structure Recognizes (identifier : Identifier) (counts : Expr.Counts) (data : List UInt8)
    (found : List Format) : Prop where
  single : found.length ≤ 1
  /-- A format is found if the data has the length of its record, at least, and its fixed bytes. -/
  mem_iff : ∀ format, format ∈ found ↔ format ∈ identifier.plans.map (·.1) ∧
    format.size ≤ data.length ∧ Pattern.Agrees format.layout data
  /-- The transforms of all fields succeed on their own slices of the data. -/
  stored : ∀ entry ∈ identifier.plans, entry.1 ∈ found →
    ∀ (i : Nat) (field : Field), entry.2.fields[i]? = some field →
      ∃ value, field.valueOf .standard (entry.2.world .empty counts)
        (slice entry.2.fields data i) = .ok value

theorem identify_steady (steady : ∀ format ∈ formats, format.isSteady = true)
    (distinct : (formats.map Format.head?).Nodup) (begin : none ∉ formats.map Format.head?) :
    ∃ identifier, ∀ counts,
      (build .standard formats .empty).run counts = (.ok identifier, counts) ∧
      identifier.plans.map (·.1) = formats ∧ ∀ data : List UInt8,
        ∃ found, (identifier.identify .standard data).run counts = (.ok found, counts) ∧
          identifier.Recognizes counts data found := by
  obtain ⟨identifier, built⟩ := build_steady steady
  refine ⟨identifier, fun counts => ?_⟩
  have undisturbed (data : List UInt8) : ∀ format ∈ formats,
      format.Undisturbed .standard .empty counts data :=
    fun format present => undisturbed_of_isSteady (steady format present) counts data
  obtain ⟨-, plans⟩ := of_build (built counts) fun format present =>
    (undisturbed [] format present).free
  have listed : identifier.plans.map (·.1) = formats := by
    rw [← List.forall₂_eq_eq_eq, List.forall₂_map_left_iff]
    exact plans.flip.imp fun _ _ own => own.1
  refine ⟨built counts, listed, fun data => ?_⟩
  have mem_iff (format : Format) :
      format ∈ bySize (formats.filter (·.parses .standard .empty counts data)) ↔
        format ∈ formats ∧ format.size ≤ data.length ∧ Pattern.Agrees format.layout data := by
    rw [bySize, List.mem_mergeSort, List.mem_filter]
    exact and_congr_right fun present => parses_iff (steady format present)
  refine ⟨_, run_identify (built counts) (undisturbed data), ?_, listed.symm ▸ mem_iff, ?_⟩
  · rw [bySize, List.length_mergeSort]
    exact length_filter_le_one distinct begin fun format present parses =>
      ((parses_iff (steady format present)).mp parses).2
  · intro entry among chosen i field there
    obtain ⟨format, present, rfl, compiled⟩ := exists_of_forall₂ plans among
    obtain ⟨plan, compiles, scope, fields⟩ := compile_steady (steady entry.1 present)
    rw [compiles counts] at compiled
    obtain rfl : plan = entry.2 := Except.ok.inj compiled
    -- A field ends within its record, and the data is as long as that.
    have enough : offset entry.2.fields (i + 1) ≤ data.length :=
      calc offset entry.2.fields (i + 1)
          ≤ offset entry.2.fields entry.2.fields.length :=
            offset_le_offset _ (List.getElem?_eq_some_iff.mp there).1
        _ = entry.1.size := by rw [← size_eq_offset, (of_compile (compiles counts)).2]
        _ ≤ data.length := ((mem_iff entry.1).mp chosen).2.1
    exact Field.stores_of_isSteady (fields field (List.mem_of_getElem? there))
      (prepared counts scope) (length_slice there enough)

end Catalogue.Identifier

namespace Catalogue
open Plan

/-- What is to be known of a format so that it is identified among others. -/
structure Known (format : Format) (name : String) (size : Nat) (byte : Int) : Prop where
  steady : format.isSteady = true
  name : format.name.plainText = name
  size : format.size = size
  head : format.head? = some byte

theorem known_of_read {entry : Value} {name : String} {size : Nat} {byte : Int}
    (checked : (match readFormat entry with
      | .ok format => format.isSteady && format.name.plainText == name && format.size == size &&
        format.head? == some byte
      | .error _ => false) = true) :
    ∃ format, readFormat entry = .ok format ∧ Known format name size byte := by
  split at checked
  · next format read =>
    simp only [Bool.and_eq_true, beq_iff_eq] at checked
    obtain ⟨⟨⟨steady, name⟩, size⟩, head⟩ := checked
    exact ⟨format, read, steady, name, size, head⟩
  · cases checked

private def standardEntries : List Value :=
  match standard with
  | .dict [(_, .list entries)] => entries
  | _ => []

/-- The formats of the standard catalogue are steady, and each begins with a byte of its own. -/
theorem readFormats_standard : ∃ formats, readFormats standard = .ok formats ∧
    (∀ format ∈ formats, format.isSteady = true) ∧
    formats.map (·.name.plainText) = ["PNG Image Header", "Surfer 6 Binary Grid",
      "GZIP Member Header", "BMP File Header"] ∧
    formats.map Format.size = [26, 56, 10, 14] ∧
    formats.map Format.head? = [some 0x89, some 0x44, some 0x1F, some 0x42] := by
  have listed : optional standard "formats" (.list []) = .ok (.list standardEntries) := by
    with_unfolding_all rfl
  have apart : standardEntries = [standardEntries[0], standardEntries[1], standardEntries[2],
      standardEntries[3]] := rfl
  -- each entry is read on its own: what it comes to is computed
  obtain ⟨image, image_read, image_known⟩ : ∃ format, readFormat standardEntries[0] = .ok format ∧
      Known format "PNG Image Header" 26 0x89 := known_of_read (by decide +kernel)
  obtain ⟨grid, grid_read, grid_known⟩ : ∃ format, readFormat standardEntries[1] = .ok format ∧
      Known format "Surfer 6 Binary Grid" 56 0x44 := known_of_read (by decide +kernel)
  obtain ⟨archive, archive_read, archive_known⟩ :
      ∃ format, readFormat standardEntries[2] = .ok format ∧
        Known format "GZIP Member Header" 10 0x1F := known_of_read (by decide +kernel)
  obtain ⟨bitmap, bitmap_read, bitmap_known⟩ :
      ∃ format, readFormat standardEntries[3] = .ok format ∧
        Known format "BMP File Header" 14 0x42 := known_of_read (by decide +kernel)
  refine ⟨[image, grid, archive, bitmap], ?_, ?_, ?_, ?_, ?_⟩
  · rw [readFormats, listed]
    change standardEntries.mapM readFormat = _
    rw [apart]
    simp only [List.mapM_cons, List.mapM_nil, image_read, grid_read, archive_read, bitmap_read]
    rfl
  · simp only [List.forall_mem_cons]
    exact ⟨image_known.steady, grid_known.steady, archive_known.steady, bitmap_known.steady,
      List.forall_mem_nil _⟩
  · simp only [List.map_cons, List.map_nil, image_known.name, grid_known.name, archive_known.name,
      bitmap_known.name]
  · simp only [List.map_cons, List.map_nil, image_known.size, grid_known.size, archive_known.size,
      bitmap_known.size]
  · simp only [List.map_cons, List.map_nil, image_known.head, grid_known.head, archive_known.head,
      bitmap_known.head]

/-- With the standard catalogue, identification never fails and finds at most one format, whatever
the data is. A format is found if the data is as long as its record, at least, and shows the fixed
bytes of its layout; then the transforms of all of its fields succeed on their slices. -/
theorem identify_standard : ∃ formats identifier, readFormats standard = .ok formats ∧
    formats.map (·.name.plainText) = ["PNG Image Header", "Surfer 6 Binary Grid",
      "GZIP Member Header", "BMP File Header"] ∧
    formats.map Format.size = [26, 56, 10, 14] ∧
    ∀ counts, (Identifier.build .standard formats .empty).run counts = (.ok identifier, counts) ∧
      identifier.plans.map (·.1) = formats ∧ ∀ data : List UInt8,
        ∃ found, (identifier.identify .standard data).run counts = (.ok found, counts) ∧
          identifier.Recognizes counts data found := by
  obtain ⟨formats, read, steady, names, sizes, heads⟩ := readFormats_standard
  obtain ⟨identifier, identified⟩ := Identifier.identify_steady steady (by rw [heads]; decide)
    (by rw [heads]; decide)
  exact ⟨formats, identifier, read, names, sizes, identified⟩

end Catalogue
end ByteRecord
