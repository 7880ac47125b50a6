import FeatureFixtures.Proofs.Acceptance
import Mathlib.Data.List.DropRight
/-!
# Where tags go

Tags belong to the feature or scenario line right below them: nothing but blank lines, comments and
other tags may stand between. The reader keeps tags until a line takes them, which is the next
feature or scenario line, or drops them, which is a line of examples; other lines it does not make
drop them. So a scenario has the tags right above it, and before them those that any line since the
last scenario has left behind.
-/

namespace FeatureFixtures

theorem rdropWhile_append_rtakeWhile {α : Type} (p : α → Bool) (xs : List α) :
    xs.rdropWhile p ++ xs.rtakeWhile p = xs := by
  rw [List.rdropWhile, List.rtakeWhile, ← List.reverse_append, List.takeWhile_append_dropWhile,
    List.reverse_reverse]

namespace Line

/-- Whether a text of several lines begins with a line. -/
def opensText : Line → Bool
  | docString _ => true
  | _ => false

/-- What lines are. A line of a text of several lines, the mark that closes it included, is nothing;
such a text may be open already. -/
def forms : Bool → List Text → List (Option Line)
  | _, [] => []
  | false, written :: rest => some (ofText written) :: forms (ofText written).opensText rest
  | true, written :: rest => none :: forms (!isDocStringMark written) rest

/-- The names of the tags on a line. -/
def tagNames : Option Line → List Text
  | some (tags words) => words.map (·.drop 1)
  | _ => []

/-- Whether a line may stand between tags and what they belong to. -/
def isMargin : Option Line → Bool
  | some ignored | some (tags _) => true
  | _ => false

/-- Whether no tags wait below a line. -/
def settlesTags : Option Line → Bool
  | some (feature _) | some (outline _) | some (scenario _) | some examples => true
  | _ => false

/-- The tags right above the line that comes next. -/
def tagsRightAbove (above : List (Option Line)) : List Text :=
  (above.rtakeWhile isMargin).flatMap tagNames

/-- The tags that wait for the line that comes next. -/
def waitingTags (above : List (Option Line)) : List Text :=
  (above.rtakeWhile (!settlesTags ·)).flatMap tagNames

/-- The lines that leave tags behind for the line that comes next, if there are any on them: those
below which no tags were taken or dropped, up to the last one that is no margin. -/
def strayLines (above : List (Option Line)) : List (Option Line) :=
  (above.rtakeWhile (!settlesTags ·)).rdropWhile isMargin

theorem waitingTags_concat (above : List (Option Line)) (form : Option Line) :
    waitingTags (above ++ [form]) =
      if settlesTags form then [] else waitingTags above ++ tagNames form := by
  unfold waitingTags
  rw [List.rtakeWhile_concat]
  cases settlesTags form <;> simp

theorem settlesTags_of_isMargin {form : Option Line} (h : isMargin form = true) :
    settlesTags form = false := by
  unfold isMargin at h
  split at h
  · rfl
  · rfl
  · cases h

theorem rtakeWhile_isMargin (above : List (Option Line)) :
    (above.rtakeWhile (!settlesTags ·)).rtakeWhile isMargin = above.rtakeWhile isMargin := by
  induction above using List.reverseRecOn with
  | nil => rfl
  | append_singleton above form ih =>
    rw [List.rtakeWhile_concat, List.rtakeWhile_concat]
    cases hmargin : isMargin form with
    | true =>
      rw [settlesTags_of_isMargin hmargin, Bool.not_false, if_pos rfl, if_pos rfl,
        List.rtakeWhile_concat, if_pos hmargin, ih]
    | false =>
      cases hsettles : settlesTags form with
      | true => rfl
      | false =>
        rw [Bool.not_false, if_pos rfl, List.rtakeWhile_concat, hmargin, if_neg Bool.false_ne_true,
          if_neg Bool.false_ne_true]

theorem waitingTags_eq (above : List (Option Line)) :
    waitingTags above = (strayLines above).flatMap tagNames ++ tagsRightAbove above := by
  rw [strayLines, tagsRightAbove, ← rtakeWhile_isMargin, ← List.flatMap_append,
    rdropWhile_append_rtakeWhile, waitingTags]

theorem waitingTags_of_forall_isMargin {above : List (Option Line)}
    (h : ∀ form ∈ above, isMargin form = true) : waitingTags above = tagsRightAbove above := by
  have hsettles : ∀ form ∈ above, (!settlesTags form) = true := fun form hform => by
    rw [settlesTags_of_isMargin (h form hform), Bool.not_false]
  rw [waitingTags, tagsRightAbove, List.rtakeWhile_eq_self_iff.2 hsettles,
    List.rtakeWhile_eq_self_iff.2 h]

end Line

theorem names_of_mapM_tagName {words names : List Text} (h : words.mapM tagName = .ok names) :
    names = words.map (·.drop 1) := by
  induction words generalizing names with
  | nil =>
    cases h
    rfl
  | cons word rest ih =>
    rw [List.mapM_cons] at h
    obtain ⟨name, hname, h⟩ := bind_eq_ok_iff.1 h
    obtain ⟨others, hothers, h⟩ := bind_eq_ok_iff.1 h
    cases h
    unfold tagName at hname
    split at hname
    · cases hname
      rw [ih hothers]
      rfl
    · cases hname

theorem map_eq_of_changeLast {α β ε : Type} {absent : ε} {change : α → Except ε α} {f : α → β}
    {xs ys : List α} (h : changeLast absent change xs = .ok ys)
    (hkeeps : ∀ x y, change x = .ok y → f y = f x) : ys.map f = xs.map f := by
  obtain ⟨before, x, y, rfl, hxy, rfl⟩ := changeLast_eq_ok_iff.1 h
  rw [List.map_append, List.map_append, List.map_singleton, List.map_singleton, hkeeps x y hxy]

/-- What a scenario tells of its heading: what it is, on which line, and with which tags. -/
def Scenario.entry (scenario : Scenario) : Line × Nat × List Text :=
  (scenario.heading, scenario.line, scenario.tags)

namespace Feature.Draft

variable {draft after : Draft} {above : List (Option Line)}

/-- A heading stands in a file behind the lines above it, and has taken the tags that waited. -/
def IsEntryIn (forms : List (Option Line)) (entry : Line × Nat × List Text) : Prop :=
  ∃ before rest, forms = before ++ some entry.1 :: rest ∧ entry.2.1 = before.length + 1 ∧
    entry.2.2 = Line.waitingTags before

/-- What has been read of the tags on lines. -/
structure IsTagged (draft : Draft) (above : List (Option Line)) : Prop where
  waiting : draft.tags = Line.waitingTags above
  awaited : draft.part = .start → ∀ form ∈ above, Line.isMargin form = true
  begun : draft.part ≠ .start → ∃ before rest,
    above = before ++ some (.feature draft.feature.title) :: rest ∧
      (∀ form ∈ before, Line.isMargin form = true) ∧
      draft.feature.tags = Line.tagsRightAbove before
  entries : ∀ scenario ∈ draft.feature.scenarios, IsEntryIn above scenario.entry

/-- The tags of the feature and its headings stay as they are. -/
structure KeepsEntries (draft after : Draft) : Prop where
  part : draft.part ≠ .start → after.part ≠ .start
  title : after.feature.title = draft.feature.title
  tags : after.feature.tags = draft.feature.tags
  entries : after.feature.scenarios.map Scenario.entry = draft.feature.scenarios.map Scenario.entry

/-- Nothing that concerns tags is changed, nor is a text opened or closed. -/
structure KeepsTags (draft after : Draft) : Prop extends KeepsEntries draft after where
  waiting : after.tags = draft.tags
  docString : after.docString = draft.docString

theorem keepsTags_changeLast {absent : Fault} {change : Scenario → Except Fault Scenario}
    {scenarios : List Scenario}
    (h : changeLast absent change draft.feature.scenarios = .ok scenarios)
    (hkeeps : ∀ x y, change x = .ok y → y.entry = x.entry) :
    draft.KeepsTags { draft with feature := { draft.feature with scenarios } } :=
  ⟨⟨id, rfl, rfl, map_eq_of_changeLast h hkeeps⟩, rfl, rfl⟩

theorem keepsTags_changeStep {absent : Fault} {change : Step → Except Fault Step}
    (h : draft.changeStep absent change = .ok after) : draft.KeepsTags after := by
  unfold Draft.changeStep at h
  split at h
  · obtain ⟨steps, -, h⟩ := bind_eq_ok_iff.1 h
    cases h
    exact ⟨⟨id, rfl, rfl, rfl⟩, rfl, rfl⟩
  · obtain ⟨scenarios, hscenarios, h⟩ := bind_eq_ok_iff.1 h
    cases h
    refine keepsTags_changeLast hscenarios fun x y hxy => ?_
    obtain ⟨steps, -, hy⟩ := bind_eq_ok_iff.1 hxy
    cases hy
    rfl
  · cases h

theorem keepsTags_addRow {cells : List Text} (h : draft.addRow cells = .ok after) :
    draft.KeepsTags after := by
  unfold Draft.addRow at h
  split at h
  · obtain ⟨scenarios, hscenarios, h⟩ := bind_eq_ok_iff.1 h
    cases h
    refine keepsTags_changeLast hscenarios fun x y hxy => ?_
    split at hxy
    · next examples hx =>
      obtain ⟨changed, -, hy⟩ := bind_eq_ok_iff.1 hxy
      cases hy
      simp [Scenario.entry, Scenario.heading, hx]
    · cases hxy
  · exact keepsTags_changeStep h
  · exact keepsTags_changeStep h
  · cases h

theorem keepsTags_addStep {step : Step} (h : draft.addStep step = .ok after) :
    draft.KeepsTags after := by
  unfold Draft.addStep at h
  split at h
  · cases h
    exact ⟨⟨id, rfl, rfl, rfl⟩, rfl, rfl⟩
  · obtain ⟨scenarios, hscenarios, h⟩ := bind_eq_ok_iff.1 h
    cases h
    refine keepsTags_changeLast hscenarios fun x y hxy => ?_
    cases hxy
    rfl
  · cases h
  · cases h
  · cases h

theorem IsEntryIn.concat {entry : Line × Nat × List Text} (h : IsEntryIn above entry)
    (form : Option Line) : IsEntryIn (above ++ [form]) entry := by
  obtain ⟨before, rest, rfl, hline, htags⟩ := h
  exact ⟨before, rest ++ [form], by simp, hline, htags⟩

theorem IsTagged.begun_concat (h : draft.IsTagged above) (hpart : draft.part ≠ .start)
    (form : Option Line) : ∃ before rest,
      above ++ [form] = before ++ some (.feature draft.feature.title) :: rest ∧
        (∀ form ∈ before, Line.isMargin form = true) ∧
        draft.feature.tags = Line.tagsRightAbove before := by
  obtain ⟨before, rest, heq, hmargin, htags⟩ := h.begun hpart
  exact ⟨before, rest ++ [form], by simp [heq], hmargin, htags⟩

theorem IsTagged.of_keepsEntries {form : Option Line} (h : draft.IsTagged above)
    (hpart : draft.part ≠ .start) (hkeeps : draft.KeepsEntries after)
    (hwaiting : after.tags = Line.waitingTags (above ++ [form])) :
    after.IsTagged (above ++ [form]) where
  waiting := hwaiting
  awaited := fun hstart => absurd hstart (hkeeps.part hpart)
  begun := by
    intro _
    rw [hkeeps.title, hkeeps.tags]
    exact h.begun_concat hpart form
  entries := by
    rw [← List.forall_mem_map (P := IsEntryIn (above ++ [form])) (f := Scenario.entry),
      hkeeps.entries, List.forall_mem_map]
    exact fun scenario hscenario => (h.entries scenario hscenario).concat form

/-- A line below the feature line that neither begins a scenario nor changes the waiting tags. -/
theorem IsTagged.of_waiting_eq {form : Option Line} (h : draft.IsTagged above)
    (hpart : draft.part ≠ .start) (hkeeps : draft.KeepsEntries after)
    (hwaiting : after.tags = draft.tags)
    (hsettles : Line.settlesTags form = false) (hnames : Line.tagNames form = []) :
    after.IsTagged (above ++ [form]) := by
  refine h.of_keepsEntries hpart hkeeps ?_
  rw [hwaiting, h.waiting, Line.waitingTags_concat, hsettles, hnames, List.append_nil]
  rfl

theorem IsTagged.beginScenario (h : draft.IsTagged above) (hpart : draft.part ≠ .start)
    (title : Text) {examples : Option Examples} {form : Line}
    (hform : form = Scenario.heading
      { title, tags := draft.tags, steps := [], examples, line := above.length + 1 })
    (hsettles : Line.settlesTags (some form) = true) :
    (draft.beginScenario (above.length + 1) title examples).IsTagged (above ++ [some form]) where
  waiting := by
    rw [Line.waitingTags_concat, hsettles]
    rfl
  awaited := by
    rintro ⟨⟩
  begun := fun _ => h.begun_concat hpart (some form)
  entries := by
    intro scenario hscenario
    rcases List.mem_append.1 hscenario with hold | hnew
    · exact (h.entries scenario hold).concat (some form)
    · rw [List.mem_singleton.1 hnew, hform]
      exact ⟨above, [], rfl, rfl, h.waiting⟩

theorem IsTagged.addMargin {form : Option Line} (h : draft.IsTagged above)
    (hmargin : Line.isMargin form = true) :
    ({ draft with tags := draft.tags ++ Line.tagNames form } : Draft).IsTagged
      (above ++ [form]) where
  waiting := by
    rw [h.waiting, Line.waitingTags_concat, Line.settlesTags_of_isMargin hmargin]
    rfl
  awaited := by
    intro hstart other hother
    rcases List.mem_append.1 hother with hold | hnew
    · exact h.awaited hstart other hold
    · rw [List.mem_singleton.1 hnew, hmargin]
  begun := fun hpart => h.begun_concat hpart form
  entries := fun scenario hscenario => (h.entries scenario hscenario).concat form

theorem IsTagged.addTags {words names : List Text} (h : draft.IsTagged above)
    (hnames : words.mapM tagName = .ok names) :
    ({ draft with tags := draft.tags ++ names } : Draft).IsTagged
      (above ++ [some (.tags words)]) := by
  have hmargin : Line.isMargin (some (.tags words)) = true := rfl
  rw [names_of_mapM_tagName hnames]
  exact h.addMargin hmargin

theorem IsTagged.addIgnored (h : draft.IsTagged above) :
    draft.IsTagged (above ++ [some .ignored]) := by
  have hmargin : Line.isMargin (some .ignored) = true := rfl
  have hnone : Line.tagNames (some .ignored) = [] := rfl
  have hadded := h.addMargin hmargin
  rw [hnone, List.append_nil] at hadded
  exact hadded

theorem IsTagged.addLine {written : Text} {form : Line} (h : draft.IsTagged above)
    (hpart : draft.part ≠ .start)
    (hafter : draft.addLine (above.length + 1) written form = .ok after) :
    after.IsTagged (above ++ [some form]) := by
  cases form with
  | ignored =>
    cases hafter
    exact h.addIgnored
  | tags words =>
    obtain ⟨names, hnames, hafter⟩ := bind_eq_ok_iff.1 hafter
    cases hafter
    exact h.addTags hnames
  | feature title => cases hafter
  | background =>
    simp only [Draft.addLine] at hafter
    split at hafter
    · cases hafter
      exact h.of_waiting_eq hpart ⟨by simp, rfl, rfl, rfl⟩ rfl rfl rfl
    · cases hafter
  | outline title =>
    cases hafter
    exact h.beginScenario hpart title rfl rfl
  | scenario title =>
    cases hafter
    exact h.beginScenario hpart title rfl rfl
  | examples =>
    simp only [Draft.addLine] at hafter
    split at hafter
    · cases hafter
      refine h.of_keepsEntries hpart ⟨by simp, rfl, rfl, rfl⟩ ?_
      rw [Line.waitingTags_concat]
      rfl
    · cases hafter
  | row cells =>
    cases cells with
    | none => cases hafter
    | some cells =>
      have hkeeps := keepsTags_addRow hafter
      exact h.of_waiting_eq hpart hkeeps.toKeepsEntries hkeeps.waiting rfl rfl
  | docString indent =>
    cases hafter
    exact h.of_waiting_eq hpart ⟨id, rfl, rfl, rfl⟩ rfl rfl rfl
  | step keyword text =>
    have hkeeps := keepsTags_addStep hafter
    exact h.of_waiting_eq hpart hkeeps.toKeepsEntries hkeeps.waiting rfl rfl
  | other =>
    simp only [Draft.addLine] at hafter
    split at hafter
    · cases hafter
      exact h.of_waiting_eq hpart ⟨id, rfl, rfl, rfl⟩ rfl rfl rfl
    · cases hafter

theorem IsTagged.addFirstLine {written : Text} {form : Line} (h : draft.IsTagged above)
    (hpart : draft.part = .start) (hafter : draft.addFirstLine written form = .ok after) :
    after.IsTagged (above ++ [some form]) := by
  unfold Draft.addFirstLine at hafter
  split at hafter
  · cases hafter
    exact h.addIgnored
  · obtain ⟨names, hnames, hafter⟩ := bind_eq_ok_iff.1 hafter
    cases hafter
    exact h.addTags hnames
  · next title =>
    cases hafter
    have hmargin := h.awaited hpart
    refine ⟨?_, by rintro ⟨⟩, fun _ => ?_, fun scenario hscenario => ?_⟩
    · rw [Line.waitingTags_concat]
      rfl
    · exact ⟨above, [], rfl, hmargin,
        h.waiting.trans (Line.waitingTags_of_forall_isMargin hmargin)⟩
    · exact (h.entries scenario hscenario).concat _
  · cases hafter

theorem isSome_docString_of_addLine {number : Nat} {written : Text} {form : Line}
    (hopen : draft.docString = none) (hafter : draft.addLine number written form = .ok after) :
    after.docString.isSome = form.opensText := by
  cases form with
  | tags words =>
    obtain ⟨names, -, hafter⟩ := bind_eq_ok_iff.1 hafter
    cases hafter
    simp [hopen, Line.opensText]
  | row cells =>
    cases cells with
    | none => cases hafter
    | some cells =>
      rw [(keepsTags_addRow hafter).docString, hopen]
      rfl
  | step keyword text =>
    rw [(keepsTags_addStep hafter).docString, hopen]
    rfl
  | background | examples | other =>
    simp only [Draft.addLine] at hafter
    split at hafter
    · cases hafter
      simp [hopen, Line.opensText]
    · cases hafter
  | feature title => cases hafter
  | ignored | outline title | scenario title | docString indent =>
    cases hafter
    simp [hopen, Line.opensText, Draft.beginScenario]

theorem docString_of_addFirstLine {written : Text} {form : Line}
    (hafter : draft.addFirstLine written form = .ok after) :
    after.docString = draft.docString ∧ form.opensText = false := by
  unfold Draft.addFirstLine at hafter
  split at hafter
  · cases hafter
    exact ⟨rfl, rfl⟩
  · obtain ⟨names, -, hafter⟩ := bind_eq_ok_iff.1 hafter
    cases hafter
    exact ⟨rfl, rfl⟩
  · cases hafter
    exact ⟨rfl, rfl⟩
  · cases hafter

/-- A text is open only below the feature line. -/
def IsBelowFeature (draft : Draft) : Prop :=
  draft.docString ≠ none → draft.part ≠ .start

theorem IsTagged.read {written : Text} (h : draft.IsTagged above) (hbelow : draft.IsBelowFeature)
    (hafter : draft.read (above.length + 1) written = .ok after) :
    after.IsBelowFeature ∧ ∃ form, after.IsTagged (above ++ [form]) ∧ ∀ rest,
      Line.forms draft.docString.isSome (written :: rest) =
        form :: Line.forms after.docString.isSome rest := by
  unfold Draft.read at hafter
  cases hopen : draft.docString with
  | none =>
    rw [hopen] at hafter
    dsimp only at hafter
    have hadded := mapError_eq_ok_iff.1 hafter
    split at hadded
    · next hpart =>
      obtain ⟨hsame, hopens⟩ := docString_of_addFirstLine hadded
      rw [hopen] at hsame
      refine ⟨fun hsome => absurd hsame hsome, _, h.addFirstLine hpart hadded, fun rest => ?_⟩
      rw [hsame]
      simp [Line.forms, hopens]
    · next hpart =>
      have hnext := h.addLine hpart hadded
      refine ⟨fun _ hstart => ?_, _, hnext, fun rest => ?_⟩
      · -- The feature line stands above, and it is no margin.
        obtain ⟨before, rest, heq, -⟩ := h.begun hpart
        have hmargin := hnext.awaited hstart (some (.feature draft.feature.title)) (by simp [heq])
        cases hmargin
      · rw [isSome_docString_of_addLine hopen hadded]
        rfl
  | some opened =>
    have hpart := hbelow (by simp [hopen])
    rw [hopen] at hafter
    dsimp only at hafter
    split at hafter
    · next hmark =>
      have hclosed := keepsTags_changeStep (mapError_eq_ok_iff.1 hafter)
      refine ⟨fun hsome => absurd hclosed.docString hsome, none,
        h.of_waiting_eq hpart ⟨hclosed.part, hclosed.title, hclosed.tags, hclosed.entries⟩
          hclosed.waiting rfl rfl, fun rest => ?_⟩
      rw [hclosed.docString]
      simp [Line.forms, hmark]
    · next hinner =>
      cases hafter
      refine ⟨fun _ => hpart, none, h.of_waiting_eq hpart ⟨id, rfl, rfl, rfl⟩ rfl rfl rfl,
        fun rest => ?_⟩
      simp [Line.forms, hinner]

theorem IsTagged.readAll {lines : List Text} (h : draft.IsTagged above)
    (hbelow : draft.IsBelowFeature)
    (hafter : draft.readAll (above.length + 1) lines = .ok after) :
    after.IsTagged (above ++ Line.forms draft.docString.isSome lines) := by
  induction lines generalizing draft above with
  | nil =>
    cases hafter
    simpa [Line.forms] using h
  | cons written rest ih =>
    obtain ⟨next, hnext, hafter⟩ := bind_eq_ok_iff.1 hafter
    obtain ⟨hbelow, form, hform, hforms⟩ := h.read hbelow hnext
    have hlength : above.length + 1 = (above ++ [form]).length := by simp
    rw [hlength] at hafter
    have hrest := ih hform hbelow hafter
    rw [hforms]
    simpa using hrest

theorem isTagged_empty : ({} : Draft).IsTagged [] :=
  ⟨rfl, by simp, fun hpart => absurd rfl hpart, by simp⟩

end Feature.Draft

namespace Line

theorem ne_nil_of_ofText_eq_tags {written : Text} {words : List Text}
    (h : ofText written = .tags words) : words ≠ [] := by
  have hwords : ∃ rest, words = Text.words ('@' :: rest) := by
    unfold ofText ofTrimmed at h
    repeat' split at h
    all_goals try cases h
    next hstart =>
      obtain ⟨rest, hrest⟩ := Text.startsWith_iff.1 hstart
      exact ⟨rest, by rw [hrest]; rfl⟩
  obtain ⟨rest, rfl⟩ := hwords
  obtain ⟨first, others, hsplit⟩ := List.exists_cons_of_ne_nil (List.splitOnP_ne_nil isBlank rest)
  have hvisible : isBlank '@' = false := by decide
  simp [Text.words, List.splitOnP_cons_eq_if_modifyHead, hvisible, hsplit]

theorem exists_mem_of_mem_forms {inside : Bool} {lines : List Text} {form : Line}
    (h : some form ∈ forms inside lines) : ∃ line ∈ lines, ofText line = form := by
  induction lines generalizing inside with
  | nil => cases h
  | cons line rest ih =>
    cases inside with
    | false =>
      rcases List.mem_cons.1 h with hfirst | hrest
      · exact ⟨line, List.mem_cons_self, (Option.some.inj hfirst).symm⟩
      · obtain ⟨other, hother, hform⟩ := ih hrest
        exact ⟨other, List.mem_cons_of_mem line hother, hform⟩
    | true =>
      rcases List.mem_cons.1 h with hfirst | hrest
      · cases hfirst
      · obtain ⟨other, hother, hform⟩ := ih hrest
        exact ⟨other, List.mem_cons_of_mem line hother, hform⟩

theorem mem_of_mem_strayLines {above : List (Option Line)} {form : Option Line}
    (h : form ∈ strayLines above) : form ∈ above :=
  (List.rtakeWhile_suffix _ _).mem ((List.rdropWhile_prefix _ _).mem h)

/-- Every line of tags has a tag, so lines leave no tags behind only if none of them is such a
line. -/
theorem flatMap_strayLines_eq_nil_iff {above : List (Option Line)}
    (h : ∀ words, some (.tags words) ∈ above → words ≠ []) :
    (strayLines above).flatMap tagNames = [] ↔ ∀ words, some (.tags words) ∉ strayLines above := by
  rw [List.flatMap_eq_nil_iff]
  constructor
  · intro hnone words hmem
    have hnames := hnone _ hmem
    exact h words (mem_of_mem_strayLines hmem) (List.map_eq_nil_iff.1 hnames)
  · intro hnone form hmem
    unfold tagNames
    split
    · next words => exact absurd hmem (hnone words)
    · rfl

end Line

namespace Feature

variable {source : Text} {feature : Feature}

/-- **Tags on headings.** The feature has the tags right above its line. A scenario has those right
above its heading as well, but before them the tags of lines that other lines stand below, if no
heading and no line of examples does. So it has the tags right above its heading exactly if there
are no such lines. -/
theorem parse_tags (h : parse source = .ok feature) :
    (∃ before rest,
      Line.forms false (Text.lines source) = before ++ some (.feature feature.title) :: rest ∧
      feature.tags = Line.tagsRightAbove before) ∧
    ∀ scenario ∈ feature.scenarios, ∃ before rest,
      Line.forms false (Text.lines source) = before ++ some scenario.heading :: rest ∧
      scenario.line = before.length + 1 ∧
      scenario.tags =
        (Line.strayLines before).flatMap Line.tagNames ++ Line.tagsRightAbove before ∧
      (scenario.tags = Line.tagsRightAbove before ↔
        ∀ words, some (.tags words) ∉ Line.strayLines before) := by
  obtain ⟨draft, hread, -, hpart, -, rfl⟩ := exists_draft_of_parse h
  have htagged := Draft.isTagged_empty.readAll (fun hopen => absurd rfl hopen) hread
  rw [List.nil_append] at htagged
  refine ⟨?_, fun scenario hscenario => ?_⟩
  · obtain ⟨before, rest, hforms, -, htags⟩ := htagged.begun hpart
    exact ⟨before, rest, hforms, htags⟩
  · obtain ⟨before, rest, hforms, hline, htags⟩ := htagged.entries scenario hscenario
    have hwords : ∀ words, some (.tags words) ∈ before → words ≠ [] := by
      intro words hmem
      have hfile : some (.tags words) ∈ Line.forms false (Text.lines source) :=
        hforms ▸ List.mem_append_left _ hmem
      obtain ⟨written, -, hwritten⟩ := Line.exists_mem_of_mem_forms hfile
      exact Line.ne_nil_of_ofText_eq_tags hwritten
    have hall : scenario.tags =
        (Line.strayLines before).flatMap Line.tagNames ++ Line.tagsRightAbove before :=
      htags.trans (Line.waitingTags_eq before)
    refine ⟨before, rest, hforms, hline, hall, ?_⟩
    rw [hall, List.append_left_eq_self, Line.flatMap_strayLines_eq_nil_iff hwords]

/-- Tags on several lines above a scenario, and none that were left behind before. -/
theorem parse_tags_scenario :
    let source : Text := "@web\nFeature: F\n@a @b\n# slow\n@c\nScenario: S\n"
    let scenario : Scenario :=
      { title := "S", tags := ["a", "b", "c"], steps := [], examples := none, line := 6 }
    parse source = .ok { title := "F", tags := ["web"], scenarios := [scenario] } ∧
      ∃ before rest,
        Line.forms false (Text.lines source) = before ++ some scenario.heading :: rest ∧
        (∀ words, some (.tags words) ∉ Line.strayLines before) ∧
        scenario.tags = Line.tagsRightAbove before := by
  intro source scenario
  have hparse : parse source = .ok { title := "F", tags := ["web"], scenarios := [scenario] } := by
    decide +kernel
  obtain ⟨before, rest, hforms, hline, -, hiff⟩ :=
    (parse_tags hparse).2 scenario (List.mem_singleton.2 rfl)
  have hbefore : before = (Line.forms false (Text.lines source)).take 5 := by
    rw [hforms, List.take_left' (Nat.succ.inj hline).symm]
  have hstray : Line.strayLines before = [] := by
    rw [hbefore]
    decide +kernel
  have hnone : ∀ words, some (.tags words) ∉ Line.strayLines before := by simp [hstray]
  exact ⟨hparse, before, rest, hforms, hnone, hiff.2 hnone⟩

/-- Tags before a background line, which go to the scenario below it. -/
theorem parse_tags_ne_of_background :
    let source : Text := "Feature: F\n@a\nBackground:\nScenario: S\n"
    let scenario : Scenario :=
      { title := "S", tags := ["a"], steps := [], examples := none, line := 4 }
    let before : List (Option Line) :=
      [some (.feature "F"), some (.tags ["@a"]), some .background]
    parse source = .ok { title := "F", scenarios := [scenario] } ∧
      Line.forms false (Text.lines source) = before ++ [some (.scenario "S")] ∧
      Line.tagsRightAbove before = [] ∧ scenario.tags ≠ Line.tagsRightAbove before := by
  decide +kernel

end Feature

end FeatureFixtures
