import OffloadCodec.Params

/-!
# The typed view and the raw parameters

An enumeration of the typed view is open: it has a variant for each published code and an escape for
all others. `OpenCodes` is what the three of them have in common. An escape can hold a code that is
published after all; then the code comes back as its variant (`OpenCodes.named`), and this is all
that is lost when a view is written and read again (`CodecConfig.ofRaw_writeInto`).

In the other direction all is kept but the value of a fallback on software that is on
(`CodecConfig.writeInto_ofRaw`).
-/

namespace OffloadCodec

/-- Published codes with their variants, and an escape that holds any other code. -/
structure OpenCodes (α : Type) (ofCode : UInt32 → α) (toCode : α → UInt32) where
  published : List (UInt32 × α)
  /-- The code that an escape holds. -/
  escaped? : α → Option UInt32
  variants : ∀ entry ∈ published, escaped? entry.2 = none
  held : ∀ value code, escaped? value = some code →
    toCode value = code ∧ ofCode code = (published.lookup code).getD value
  whole : ∀ value, escaped? value = none → ofCode (toCode value) = value

namespace OpenCodes

variable {α : Type} {ofCode : UInt32 → α} {toCode : α → UInt32} (codes : OpenCodes α ofCode toCode)

/-- An escape that holds a published code becomes the variant of that code. -/
def named (value : α) : α :=
  match codes.escaped? value with
  | none => value
  | some code => (codes.published.lookup code).getD value

/-- The value is an escape, and the code that it holds is published. -/
def Hides (value : α) : Prop :=
  ∃ code ∈ codes.escaped? value, code ∈ codes.published.map (·.1)

theorem ofCode_toCode (value : α) : ofCode (toCode value) = codes.named value := by
  unfold named
  split
  · next plain => exact codes.whole value plain
  · next code escaped =>
    obtain ⟨same, read⟩ := codes.held value code escaped
    rw [same, read]

/-- A value keeps its name unless it hides a variant. -/
theorem named_eq_self_iff (value : α) : codes.named value = value ↔ ¬codes.Hides value := by
  unfold named Hides
  split
  · next plain => exact iff_of_true rfl fun ⟨code, held, _⟩ => by cases plain.symm.trans held
  · next code escaped =>
    cases found : codes.published.lookup code with
    | none =>
      have unpublished := List.lookup_eq_none_iff.1 found
      refine iff_of_true rfl fun ⟨other, held, member⟩ => ?_
      obtain rfl := Option.some.inj (escaped.symm.trans held)
      obtain ⟨entry, inside, rfl⟩ := List.mem_map.1 member
      simpa using unpublished entry inside
    | some variant =>
      obtain ⟨before, after, split_, -⟩ := List.lookup_eq_some_iff.1 found
      have inside : (code, variant) ∈ codes.published := by
        rw [split_]
        exact List.mem_append_right _ List.mem_cons_self
      refine iff_of_false (fun same => ?_) fun hides => hides ⟨code, escaped, ?_⟩
      · have plain := codes.variants _ inside
        rw [show variant = value from same, escaped] at plain
        cases plain
      · exact List.mem_map_of_mem inside

end OpenCodes

/-! ## The three enumerations -/

theorem getD_lookup_cons {α : Type} (code first : UInt32) (variant default : α)
    (rest : List (UInt32 × α)) :
    (((first, variant) :: rest).lookup code).getD default =
      if code = first then variant else (rest.lookup code).getD default := by
  rw [List.lookup_cons]
  by_cases same : code = first
  · rw [if_pos same, beq_iff_eq.2 same]
    rfl
  · rw [if_neg same, beq_eq_false_iff_ne.2 same]

def HuffmanHeader.codes : OpenCodes HuffmanHeader ofCode toCode where
  published := [(0, .dynamic), (1, .static)]
  escaped?
    | .other code => some code
    | _ => none
  variants := by decide
  held
    | .other _, _, rfl => ⟨rfl, by simp only [getD_lookup_cons]; rfl⟩
  whole
    | .dynamic, _ => rfl
    | .static, _ => rfl

def Direction.codes : OpenCodes Direction ofCode toCode where
  published := [(0, .compress), (1, .decompress), (2, .both)]
  escaped?
    | .other code => some code
    | _ => none
  variants := by decide
  held
    | .other _, _, rfl => ⟨rfl, by simp only [getD_lookup_cons]; rfl⟩
  whole
    | .compress, _ => rfl
    | .decompress, _ => rfl
    | .both, _ => rfl

def DataFormat.codes : OpenCodes DataFormat ofCode toCode where
  published := [(0, .deflate4B), (1, .gzip), (2, .gzipExt), (3, .raw)]
  escaped?
    | .other code => some code
    | _ => none
  variants := by decide
  held
    | .other _, _, rfl => ⟨rfl, by simp only [getD_lookup_cons]; rfl⟩
  whole
    | .deflate4B, _ => rfl
    | .gzip, _ => rfl
    | .gzipExt, _ => rfl
    | .raw, _ => rfl

/-! ## The whole block -/

/-- What a byte that says whether something is on becomes when it is read and written again. -/
theorem toUInt8_ne_zero (byte : UInt8) : (byte != 0).toUInt8 = if byte = 0 then 0 else 1 := by
  by_cases zero : byte = 0
  · rw [zero]
    rfl
  · rw [if_neg zero, bne_iff_ne.2 zero]
    rfl

namespace CodecConfig

/-- The view with every published code under its name. -/
def named (config : CodecConfig) : CodecConfig :=
  { config with
    huffmanHeader := HuffmanHeader.codes.named config.huffmanHeader
    direction := Direction.codes.named config.direction
    dataFormat := DataFormat.codes.named config.dataFormat }

/-- Some escape of the view holds a published code. -/
def HidesCode (config : CodecConfig) : Prop :=
  HuffmanHeader.codes.Hides config.huffmanHeader ∨ Direction.codes.Hides config.direction ∨
    DataFormat.codes.Hides config.dataFormat

theorem named_eq_self_iff (config : CodecConfig) : config.named = config ↔ ¬config.HidesCode := by
  simp only [named, HidesCode, not_or, ← OpenCodes.named_eq_self_iff]
  constructor
  · intro same
    exact ⟨congrArg huffmanHeader same, congrArg direction same, congrArg dataFormat same⟩
  · rintro ⟨header, direction, format⟩
    rw [header, direction, format]

/-- A view that was written comes back with its codes under their names, and whole otherwise. -/
theorem ofRaw_writeInto (config : CodecConfig) (raw : RawParams) :
    ofRaw (config.writeInto raw) = config.named := by
  have level : config.level.toUInt32.toInt32 = config.level := Int32.toInt32_toUInt32 _
  have fallback : (config.swBackup.toUInt8 != 0) = config.swBackup := by
    cases config.swBackup <;> rfl
  simp only [ofRaw, writeInto, named, HuffmanHeader.codes.ofCode_toCode,
    Direction.codes.ofCode_toCode, DataFormat.codes.ofCode_toCode, level, fallback]

/-- Parameters that were read are written as they were, but for a fallback that was on and the bytes
that the view does not know. -/
theorem writeInto_ofRaw (raw other : RawParams) :
    (ofRaw raw).writeInto other =
      { raw with
        swBackup := if raw.swBackup = 0 then 0 else 1
        reserved := other.reserved } := by
  have level : raw.level.toInt32.toUInt32 = raw.level := UInt32.toUInt32_toInt32 _
  simp only [writeInto, ofRaw, HuffmanHeader.toCode_ofCode, Direction.toCode_ofCode,
    DataFormat.toCode_ofCode, toUInt8_ne_zero, level]

/-- Whatever was written over, parameters are read as they were. -/
theorem ofRaw_writeInto_ofRaw (raw other : RawParams) :
    ofRaw ((ofRaw raw).writeInto other) = ofRaw raw := by
  have fallback : ((if raw.swBackup = 0 then (0 : UInt8) else 1) != 0) = (raw.swBackup != 0) := by
    by_cases zero : raw.swBackup = 0
    · rw [if_pos zero, zero]
    · rw [if_neg zero, bne_iff_ne.2 zero]
      rfl
  rw [writeInto_ofRaw]
  simp only [ofRaw, fallback]

/-- The typed view and the raw parameters convert into each other. A view comes back under the
published names of its codes, which is the same view unless an escape hides one; what is written of
it does not depend on what was there, and the reserved bytes are left alone. Raw parameters come back
as the same view, and as the same parameters but for a fallback on software that is on. -/
theorem converts_both_ways :
    (∀ (config : CodecConfig) (raw : RawParams), ofRaw (config.writeInto raw) = config.named ∧
      (ofRaw (config.writeInto raw) = config ↔ ¬config.HidesCode)) ∧
    (∀ (config : CodecConfig) (raw : RawParams),
      (config.writeInto raw).reserved = raw.reserved) ∧
    (∀ (config : CodecConfig) (raw other : RawParams),
      config.writeInto other = { config.writeInto raw with reserved := other.reserved }) ∧
    ∀ raw other : RawParams, ofRaw ((ofRaw raw).writeInto other) = ofRaw raw ∧
      (ofRaw raw).writeInto other =
        { raw with
          swBackup := if raw.swBackup = 0 then 0 else 1
          reserved := other.reserved } := by
  refine ⟨fun config raw => ?_, reserved_writeInto, fun config raw other => rfl,
    fun raw other => ⟨ofRaw_writeInto_ofRaw raw other, writeInto_ofRaw raw other⟩⟩
  rw [ofRaw_writeInto]
  exact ⟨rfl, config.named_eq_self_iff⟩

end CodecConfig

end OffloadCodec
