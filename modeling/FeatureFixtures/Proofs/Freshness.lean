import FeatureFixtures.Proofs.FingerprintEncoding
import FeatureFixtures.Proofs.Generation
/-!
# What being up to date means

Code that is judged to be up to date is what would be generated now, unless two encodings have the
same digest: whatever shapes the code is in the encoding. Conversely, code that was just generated
is judged to be up to date exactly if the generator that made it has the version that is expected of
the resolution, which fails when the launch of a generator does.
-/

namespace FeatureFixtures

namespace Workspace

variable {κ σ : Type} {w : Workspace κ σ} {file : FeatureFile} {settings : GenerationSettings}
  {request : Request} {resolution : Resolution} {code body : Text} {version : Version}

/-- A workspace in which the built-in generator makes the code, under standard headers. -/
structure RunsBuiltin (w : Workspace κ σ) : Prop where
  header : w.header = .standard
  builtin : w.host.builtin = .builtin
  handle : (w.host.obtain w.store w.resolve.1).1 = .builtin

theorem platform_of_request (h : w.request file = .ok request) :
    request.platform = w.project.platform := by
  obtain ⟨feature, -, hrequest⟩ := bind_eq_ok_iff.1 h
  cases hrequest
  rfl

theorem outcome_of_chosen (h : w.host.chosen w.store resolution = .builtin) :
    w.outcome request resolution = w.host.builtin.generate request := by
  unfold outcome
  rw [h, ← (w.host.obtain_builtin w.store resolution).1]
  rfl

theorem RunsBuiltin.chosen_noting (hw : w.RunsBuiltin) (resolver : Resolver)
    (events : List Event) :
    (w.noting resolver events).host.chosen (w.noting resolver events).store w.resolve.1 =
      .builtin :=
  (w.host.obtain_fst w.store w.resolve.1).symm.trans hw.handle

theorem RunsBuiltin.outcome_noting (hw : w.RunsBuiltin) (resolver : Resolver)
    (events : List Event) :
    (w.noting resolver events).outcome request w.resolve.1 = Generator.generateCode request := by
  rw [outcome_of_chosen (hw.chosen_noting resolver events)]
  exact congrArg (Generator.generate · request) hw.builtin

theorem RunsBuiltin.version_noting (hw : w.RunsBuiltin) (resolver : Resolver)
    (events : List Event) :
    (w.noting resolver events).host.version .builtin = .current :=
  congrArg Generator.version hw.builtin

/-- Code from the built-in generator is the fixture of its request between header and footer. -/
theorem RunsBuiltin.generated (hw : w.RunsBuiltin)
    (h : (w.generate file settings).1 = .ok (.generated code version))
    (hrequest : w.request file = .ok request) :
    ∃ body, Generator.generateCode request = .ok body ∧
      code = w.wrap body (Fingerprint.computeWith w.hash .current request (w.namespaceFor file))
        (w.namespaceFor file) := by
  rcases hgenerate : w.generate file settings with ⟨result, after⟩
  rw [hgenerate] at h
  obtain rfl : result = .ok (.generated code version) := h
  obtain ⟨_, events, hsame, hproduce⟩ := generate_eq_generated hgenerate
  obtain rfl := Except.ok.inj (hrequest.symm.trans hsame)
  obtain ⟨hversion, ⟨body, hbody, hcode⟩, -⟩ := produce_eq_generated hproduce
  rw [hw.chosen_noting, hw.version_noting] at hversion
  rw [hw.outcome_noting] at hbody
  refine ⟨body, hbody, ?_⟩
  rw [hcode, hversion]
  rfl

/-- The built-in generator makes this code for a request; only writing it can fail. -/
theorem RunsBuiltin.generate_eq (hw : w.RunsBuiltin) (hrequest : w.request file = .ok request)
    (hbody : Generator.generateCode request = .ok body)
    (hcheck : settings.checkUpToDate = false) :
    (w.generate file settings).1 =
        .ok (.generated
          (w.wrap body (Fingerprint.computeWith w.hash .current request (w.namespaceFor file))
            (w.namespaceFor file)) .current) ∨
      settings.writeResult = true ∧
        ∃ fault, (w.generate file settings).1 = .ok (.failed (.file fault)) := by
  obtain ⟨events, hgenerate⟩ := generate_of_request hrequest settings
  obtain ⟨host, hproduce⟩ := (w.noting w.resolve.2.resolver events).produce_eq file settings request
    w.resolve.1
  rw [hw.outcome_noting, hbody] at hproduce
  dsimp only at hproduce
  rw [hgenerate, hcheck]
  dsimp only
  rw [hproduce, hw.chosen_noting, hw.version_noting]
  unfold save
  split
  · next hwrite =>
    split
    · exact .inl rfl
    · exact .inr ⟨hwrite, _, rfl⟩
  · exact .inl rfl

theorem wrap_congr {κ' σ' : Type} {other : Workspace κ' σ'} (hheader : w.header = other.header)
    (hlanguage : w.project.platform.language = other.project.platform.language) (body : Text)
    (fingerprint : Fingerprint) (namespaceName : Text) :
    w.wrap body fingerprint namespaceName = other.wrap body fingerprint namespaceName := by
  unfold wrap
  rw [hheader, hlanguage]

/-- **Code that is judged to be up to date is what would be generated now**, unless the encodings of
what it was made from and of what is to be made differ and have the same digest. -/
theorem generate_eq_of_content {κ' σ' : Type} {made : Workspace κ σ} {now : Workspace κ' σ'}
    {other : FeatureFile} {otherRequest : Request}
    (hmade : made.RunsBuiltin) (hnow : now.RunsBuiltin) (hhash : made.hash = now.hash)
    (hcode : (made.generate file settings).1 = .ok (.generated code version))
    (hrequest : made.request file = .ok request) (hother : now.request other = .ok otherRequest)
    (hfit : Fingerprint.FieldsFit .current request (made.namespaceFor file))
    (hotherFit : Fingerprint.FieldsFit .current otherRequest (now.namespaceFor other))
    (method : CheckMethod)
    (hcontent : (Checker.standard .standard).content code
      (Fingerprint.computeWith now.hash .current otherRequest (now.namespaceFor other)) method =
        .ok true) :
    (Fingerprint.encoding .current request (made.namespaceFor file) ≠
        Fingerprint.encoding .current otherRequest (now.namespaceFor other) ∧
      Fingerprint.digestOf
          (now.hash (Fingerprint.encoding .current request (made.namespaceFor file))) =
        Fingerprint.digestOf
          (now.hash (Fingerprint.encoding .current otherRequest (now.namespaceFor other)))) ∨
    ∀ otherSettings : GenerationSettings, otherSettings.checkUpToDate = false →
      (now.generate other otherSettings).1 = .ok (.generated code .current) ∨
        otherSettings.writeResult = true ∧
          ∃ fault, (now.generate other otherSettings).1 = .ok (.failed (.file fault)) := by
  obtain ⟨body, hbody, rfl⟩ := hmade.generated hcode hrequest
  rw [content_wrap hmade.header Version.isWellFormed_current, hhash] at hcontent
  have hfingerprint : Fingerprint.computeWith now.hash .current request (made.namespaceFor file) =
      Fingerprint.computeWith now.hash .current otherRequest (now.namespaceFor other) := by
    simpa using hcontent
  by_cases hencoding : Fingerprint.encoding .current request (made.namespaceFor file) =
      Fingerprint.encoding .current otherRequest (now.namespaceFor other)
  · right
    intro otherSettings hcheck
    obtain ⟨-, hnamespace, hagrees⟩ := Fingerprint.agrees_of_encoding_eq
      Version.isWellFormed_current Version.isWellFormed_current hfit hotherFit hencoding
    have hlanguage : made.project.platform.language = now.project.platform.language := by
      rw [← platform_of_request hrequest, ← platform_of_request hother]
      exact hagrees.language
    have hcode := hnow.generate_eq hother (hagrees.generateCode_eq ▸ hbody) hcheck
    rwa [← hfingerprint, ← hnamespace, ← hhash,
      ← wrap_congr (hmade.header.trans hnow.header.symm) hlanguage] at hcode
  · exact .inl ⟨hencoding, congrArg Fingerprint.digest hfingerprint⟩

/-- Code is the same in a copy of its project that comes from another platform. -/
theorem generate_eq_in_copy :
    let made := standalone { folder := "/work" } Blake3.hash {}
    let copy := standalone { folder := "/copy" } Blake3.hash {}
    let file : FeatureFile :=
      { path := "shop/buy.feature", feature := some "Feature: Buy\n".toList }
    let other : FeatureFile :=
      { path := "shop\\buy.feature", feature := some "Feature: Buy\r\n".toList }
    ∃ code, (made.generate file {}).1 = .ok (.generated code .current) ∧
      (copy.generate other {}).1 = .ok (.generated code .current) := by
  intro made copy file other
  let request : Request := ⟨"Feature: Buy\n", "shop/buy.feature", "shop", {}⟩
  let otherRequest : Request := ⟨"Feature: Buy\r\n", "shop/buy.feature", "shop", {}⟩
  have hmade : made.RunsBuiltin := ⟨rfl, rfl, rfl⟩
  have hcopy : copy.RunsBuiltin := ⟨rfl, rfl, rfl⟩
  have hrequest : made.request file = .ok request := rfl
  have hother : copy.request other = .ok otherRequest := rfl
  have hparsed : (Generator.generateCode request).toOption.isSome = true := by decide +kernel
  obtain ⟨body, hbody⟩ : ∃ body, Generator.generateCode request = .ok body := by
    cases hresult : Generator.generateCode request with
    | error failure =>
      rw [hresult] at hparsed
      cases hparsed
    | ok body => exact ⟨body, rfl⟩
  have hnamespace : made.namespaceFor file = copy.namespaceFor other := by decide +kernel
  have hagrees : request.Agrees otherRequest := ⟨rfl, rfl, rfl, rfl, by decide⟩
  have hencoding : Fingerprint.encoding .current request (made.namespaceFor file) =
      Fingerprint.encoding .current otherRequest (copy.namespaceFor other) := by
    rw [hnamespace, Fingerprint.encoding_eq_of_agrees hagrees]
  have hcode : (made.generate file {}).1 = _ :=
    (hmade.generate_eq hrequest hbody rfl).resolve_right fun hwrite => Bool.false_ne_true hwrite.1
  have hcontent : (Checker.standard .standard).content
      (made.wrap body
        (Fingerprint.computeWith made.hash .current request (made.namespaceFor file))
        (made.namespaceFor file))
      (Fingerprint.computeWith copy.hash .current otherRequest (copy.namespaceFor other))
      .fileContent = .ok true := by
    rw [content_wrap hmade.header Version.isWellFormed_current]
    simp only [Fingerprint.computeWith, hencoding]
    exact congrArg Except.ok (decide_eq_true rfl)
  refine ⟨_, hcode, ?_⟩
  rcases generate_eq_of_content hmade hcopy rfl hcode hrequest hother (by decide) (by decide)
    .fileContent hcontent with ⟨hdiffer, -⟩ | hsame
  · exact absurd hencoding hdiffer
  · exact (hsame {} rfl).resolve_right fun hwrite => Bool.false_ne_true hwrite.1

/-! ### Code that was just generated -/

/-- **Fresh code is judged to be up to date exactly if the launcher delivers.** Without an isolated
generator in the cache, the version that is expected of a resolution is the version of the generator
that is handed out exactly if a launch, where one is needed, ends in a context for the wanted
version; and the code that is generated next is judged to be up to date in the same cases only. -/
theorem version_obtain_iff_delivers (hheader : w.header = .standard)
    (hcached : w.host.cached = none) (hbuiltin : w.host.builtin.version = .current)
    (hversions : ∀ context, (w.host.launcher.version context).IsWellFormed)
    (resolution : Resolution) :
    ((w.host.obtain w.store resolution).2.version (w.host.obtain w.store resolution).1 =
        resolution.effectiveVersion .current ↔ w.host.Delivers w.store resolution) ∧
      ∀ file settings request code version after method,
        w.produce file settings request resolution = (.generated code version, after) →
        ((Checker.standard .standard).content code (w.expected file request resolution) method =
          .ok true ↔ w.host.Delivers w.store resolution) := by
  have hiff : w.host.version (w.host.chosen w.store resolution) =
      resolution.effectiveVersion .current ↔ w.host.Delivers w.store resolution := by
    rw [← hbuiltin]
    exact Host.version_chosen_iff hcached w.store resolution
  refine ⟨?_, fun file settings request code version after method h => ?_⟩
  · rw [w.host.version_obtain, w.host.obtain_fst, hiff]
  · obtain ⟨hversion, ⟨body, -, rfl⟩, -⟩ := produce_eq_generated h
    have hwellFormed : version.IsWellFormed := by
      rw [hversion]
      cases w.host.chosen w.store resolution with
      | builtin => exact (congrArg Version.IsWellFormed hbuiltin).mpr Version.isWellFormed_current
      | isolated generator => exact hversions generator.context
    have hsame : Fingerprint.computeWith w.hash version request (w.namespaceFor file) =
        w.expected file request resolution ↔ version = resolution.effectiveVersion .current :=
      ⟨congrArg Fingerprint.version, fun heq => heq ▸ rfl⟩
    rw [content_wrap hheader hwellFormed, ← hiff, ← hversion, ← hsame]
    simp

/-- A generator of another version that is created and started is the one that is expected, and
its code is up to date. -/
theorem version_obtain_of_steady :
    let wanted : Installation := { version := ⟨9, 9, 9, [], []⟩, location := "/tools" }
    let w : Workspace Unit Unit :=
      { project := {}
        resolver := .standard
        host :=
          { builtin := .builtin
            launcher := .steady wanted.version "class Buy;"
            state := () }
        header := .standard
        checker := .standard .standard
        hash := Blake3.hash
        store := {} }
    let file : FeatureFile := { path := "buy.feature" }
    let request : Request :=
      { feature := "Feature: Buy\n", sourceFile := "buy.feature", folderPath := [], platform := {} }
    let resolution : Resolution := .resolved wanted
    w.host.Delivers w.store resolution ∧
    (w.host.obtain w.store resolution).2.version (w.host.obtain w.store resolution).1 =
      wanted.version ∧
    ∃ code, (w.produce file {} request resolution).1 = .generated code wanted.version ∧
      (Checker.standard .standard).content code (w.expected file request resolution)
        .fileContent = .ok true := by
  intro wanted w file request resolution
  have hdelivers : w.host.Delivers w.store resolution := by
    intro other hother _
    have hsame : other = wanted := (Resolution.resolved.inj hother).symm
    exact ⟨(), rfl, hsame ▸ rfl⟩
  have hversions : ∀ context, (w.host.launcher.version context).IsWellFormed := fun _ =>
    Version.isWellFormed_numbers (by decide) (by decide) (by decide)
  have hproduced : ∃ code, (w.produce file {} request resolution).1 =
      .generated code wanted.version := ⟨_, rfl⟩
  obtain ⟨hversion, hcontent⟩ := version_obtain_iff_delivers rfl rfl rfl hversions resolution
  obtain ⟨code, hcode⟩ := hproduced
  exact ⟨hdelivers, hversion.2 hdelivers, code, hcode,
    (hcontent file {} request code wanted.version _ .fileContent (Prod.ext hcode rfl)).2 hdelivers⟩

/-- A generator that cannot be created leaves the built-in version in place of the expected one. -/
theorem version_obtain_ne_of_refused :
    let w := standalone {} Blake3.hash {}
    let resolution : Resolution := .resolved { version := ⟨99, 0, 0, [], []⟩, location := "/tools" }
    (w.host.obtain w.store resolution).2.version (w.host.obtain w.store resolution).1 ≠
      resolution.effectiveVersion .current := by
  decide

end Workspace

end FeatureFixtures
