import FeatureFixtures.Proofs.LineEndings
import FeatureFixtures.Proofs.VersionText
/-!
# What a fingerprint tells apart

The encoding behind a digest is a tag followed by seven fields, each preceded by its length in eight
bytes. As long as lengths fit into eight bytes, a field ends where its length says, so the encoding
can be taken apart again from the left: two encodings are equal exactly if all fields are. What the
fields keep of a feature file are its lines, and the generated code depends on nothing else of it.
-/

namespace FeatureFixtures

attribute [ext] Platform

/-- Two requests that differ in the endings of the feature's lines at most. -/
structure Request.Agrees (request other : Request) : Prop where
  sourceFile : request.sourceFile = other.sourceFile
  folderPath : request.folderPath = other.folderPath
  language : request.platform.language = other.platform.language
  framework : request.platform.framework = other.platform.framework
  lines : Text.contentLines request.feature = Text.contentLines other.feature

/-- The built-in generator sees nothing of a feature file but its lines. -/
theorem Request.Agrees.generateCode_eq {request other : Request} (h : request.Agrees other) :
    Generator.generateCode request = Generator.generateCode other := by
  have hplatform : request.platform = other.platform := Platform.ext h.language h.framework
  unfold Generator.generateCode
  rw [Feature.parse_eq_of_contentLines_eq h.lines, h.folderPath, hplatform]

namespace Fingerprint

/-- Whether the length of every field fits into the eight bytes before it, as the length of every
text in memory does. -/
def FieldsFit (version : Version) (request : Request) (namespaceName : Text) : Prop :=
  ∀ field ∈ fields version request namespaceName, Text.byteCount field < UInt64.size

instance (version : Version) (request : Request) (namespaceName : Text) :
    Decidable (FieldsFit version request namespaceName) :=
  inferInstanceAs (Decidable (∀ field ∈ fields version request namespaceName, _))

/-! ### Taking an encoding apart -/

theorem lengthBytes_injective {m n : Nat} (hm : m < UInt64.size) (hn : n < UInt64.size)
    (h : lengthBytes m = lengthBytes n) : m = n := by
  have hbyte (a b : Nat) (hab : a.toUInt8 = b.toUInt8) : a % 256 = b % 256 := by
    simpa using congrArg UInt8.toNat hab
  simp only [lengthBytes, List.map_cons, List.map_nil, List.cons.injEq, and_true] at h
  obtain ⟨h7, h6, h5, h4, h3, h2, h1, h0⟩ := h
  have := hbyte _ _ h7
  have := hbyte _ _ h6
  have := hbyte _ _ h5
  have := hbyte _ _ h4
  have := hbyte _ _ h3
  have := hbyte _ _ h2
  have := hbyte _ _ h1
  have := hbyte _ _ h0
  simp only [Nat.shiftRight_eq_div_pow, UInt64.size] at *
  omega

theorem fieldBytes_append_inj {field other : Text} {rest otherRest : Bytes}
    (hfield : Text.byteCount field < UInt64.size) (hother : Text.byteCount other < UInt64.size)
    (h : fieldBytes field ++ rest = fieldBytes other ++ otherRest) :
    field = other ∧ rest = otherRest := by
  simp only [fieldBytes, List.append_assoc, Text.length_toBytes] at h
  obtain ⟨hlengths, h⟩ := List.append_inj h rfl
  have hcount : Text.byteCount field = Text.byteCount other :=
    lengthBytes_injective hfield hother hlengths
  obtain ⟨hbytes, hrest⟩ := List.append_inj h (by simp [Text.length_toBytes, hcount])
  exact ⟨Text.toBytes_injective hbytes, hrest⟩

theorem flatMap_fieldBytes_inj {fields others : List Text} (hlength : fields.length = others.length)
    (hfields : ∀ field ∈ fields, Text.byteCount field < UInt64.size)
    (hothers : ∀ field ∈ others, Text.byteCount field < UInt64.size)
    (h : fields.flatMap fieldBytes = others.flatMap fieldBytes) : fields = others := by
  induction fields generalizing others with
  | nil => exact (List.length_eq_zero_iff.1 hlength.symm).symm
  | cons field rest ih =>
    obtain ⟨other, otherRest, rfl⟩ := List.exists_cons_of_length_eq_add_one hlength.symm
    simp only [List.flatMap_cons] at h
    obtain ⟨rfl, hrest⟩ := fieldBytes_append_inj (hfields field List.mem_cons_self)
      (hothers other List.mem_cons_self) h
    have hlengths : rest.length = otherRest.length := by simpa using hlength
    rw [ih hlengths (fun f hf => hfields f (List.mem_cons_of_mem _ hf))
      (fun f hf => hothers f (List.mem_cons_of_mem _ hf)) hrest]

/-! ### What an encoding determines -/

variable {version otherVersion : Version} {request other : Request}
  {namespaceName otherNamespace : Text}

theorem fields_eq_of_encoding_eq (hfit : FieldsFit version request namespaceName)
    (hother : FieldsFit otherVersion other otherNamespace)
    (h : encoding version request namespaceName = encoding otherVersion other otherNamespace) :
    fields version request namespaceName = fields otherVersion other otherNamespace :=
  flatMap_fieldBytes_inj rfl hfit hother (List.append_cancel_left h)

theorem extension_injective {language other : Language}
    (h : language.extension = other.extension) : language = other := by
  cases language <;> cases other <;> first | rfl | exact absurd h (by decide)

theorem name_injective {framework other : Framework}
    (h : framework.name = other.name) : framework = other := by
  cases framework <;> cases other <;> first | rfl | exact absurd h (by decide)

theorem agrees_of_fields_eq (hversion : version.IsWellFormed) (hother : otherVersion.IsWellFormed)
    (h : fields version request namespaceName = fields otherVersion other otherNamespace) :
    version = otherVersion ∧ namespaceName = otherNamespace ∧ request.Agrees other := by
  simp only [fields, List.cons.injEq, and_true] at h
  obtain ⟨htext, hlines, hsource, hfolder, hlanguage, hframework, hnamespace⟩ := h
  exact ⟨Version.toText_injective hversion hother htext, hnamespace,
    { sourceFile := hsource
      folderPath := hfolder
      language := extension_injective hlanguage
      framework := name_injective hframework
      lines := Text.normalizeLines_eq_iff.1 hlines }⟩

theorem fields_eq_of_agrees (h : request.Agrees other) :
    fields version request namespaceName = fields version other namespaceName := by
  unfold fields
  rw [Text.normalizeLines_eq_iff.2 h.lines, h.sourceFile, h.folderPath, h.language, h.framework]

theorem encoding_eq_of_agrees (h : request.Agrees other) :
    encoding version request namespaceName = encoding version other namespaceName := by
  unfold encoding
  rw [fields_eq_of_agrees h]

/-- What an encoding determines, as long as its fields can be told apart. -/
theorem agrees_of_encoding_eq (hversion : version.IsWellFormed)
    (hotherVersion : otherVersion.IsWellFormed) (hfit : FieldsFit version request namespaceName)
    (hotherFit : FieldsFit otherVersion other otherNamespace)
    (h : encoding version request namespaceName = encoding otherVersion other otherNamespace) :
    version = otherVersion ∧ namespaceName = otherNamespace ∧ request.Agrees other :=
  agrees_of_fields_eq hversion hotherVersion (fields_eq_of_encoding_eq hfit hotherFit h)

/-- **The encoding identifies the inputs that matter.** Two encodings are equal exactly if the
versions, the namespaces and the requests are, but for the endings of the feature's lines; requests
with equal encodings make the built-in generator do the same; and a feature with a carriage return
before every line feed has the encoding of the one without. -/
theorem encoding_eq_iff (hversion : version.IsWellFormed)
    (hotherVersion : otherVersion.IsWellFormed) (hfit : FieldsFit version request namespaceName)
    (hotherFit : FieldsFit otherVersion other otherNamespace) :
    (encoding version request namespaceName = encoding otherVersion other otherNamespace ↔
      version = otherVersion ∧ namespaceName = otherNamespace ∧ request.Agrees other) ∧
    (encoding version request namespaceName = encoding otherVersion other otherNamespace →
      Generator.builtin.generate request = Generator.builtin.generate other) ∧
    ∀ feature, ¬ ['\r', '\n'] <:+: feature →
      encoding version { request with feature := Text.withReturns feature } namespaceName =
        encoding version { request with feature } namespaceName := by
  refine ⟨⟨agrees_of_encoding_eq hversion hotherVersion hfit hotherFit, ?_⟩, fun h => ?_,
    fun feature hfeature => ?_⟩
  · rintro ⟨rfl, rfl, hagrees⟩
    exact encoding_eq_of_agrees hagrees
  · exact (agrees_of_encoding_eq hversion hotherVersion hfit hotherFit h).2.2.generateCode_eq
  · exact encoding_eq_of_agrees ⟨rfl, rfl, rfl, rfl, Text.contentLines_withReturns hfeature⟩

/-- A feature file keeps its encoding when it moves to a platform with other line endings. -/
theorem encoding_eq_of_other_platform :
    encoding .current ⟨"Feature: Buy\r\n@slow\r\n", "buy.feature", [], {}⟩ "Shop" =
      encoding .current ⟨"Feature: Buy\n@slow\n", "buy.feature", [], {}⟩ "Shop" :=
  (encoding_eq_iff Version.isWellFormed_current Version.isWellFormed_current (by decide)
    (by decide)).1.2 ⟨rfl, rfl, ⟨rfl, rfl, rfl, rfl, by decide⟩⟩

end Fingerprint

end FeatureFixtures
