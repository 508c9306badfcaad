import FenceLint.Proofs.Rules.Applied
import FenceLint.Rules.LineStart

/-!
# Suppressed rules stay off

A fenced block is linted with two rules switched off, and no configuration can switch them on
again: not by another spelling, not by an alias, and not through the pass that switches rules off by
default.

The argument looks at where a setting can come from.  A rule is switched on only by a key of the
configuration, under that key in lower case (`exists_of_enable_mem_directives`), and the
configuration of a block has no such key left for a suppressed rule
(`lower_not_mem_suppressedNames`).  The two rules are switched off by keys that are added behind all
others (`disable_mem_directives_nestedConfig`), so also after the pass over the known rules.

What a configuration says about suppressed rules does not matter at all, since `nestedConfig`
forgets it before anything else happens.  No name of a rule has a half of a surrogate pair in it, so
what such halves are read as (`Json.Reader.unitChar`) does not matter either.
-/

namespace FenceLint

/-- The scanner reports no rule that is switched off under its identifier in lower case. -/
def Scanner.Obeys (scanner : Scanner) : Prop :=
  ∀ settings content violations, scanner settings content = .ok violations →
    ∀ v ∈ violations, Setting.disable (Text.lower v.rule) ∉ settings

namespace Rules

/-! ## Where settings come from -/

/-- An option of a rule switches no rule on. -/
theorem optionDirective_ne_enable (rule option name : String) (value : Json.Value) :
    optionDirective rule option value ≠ .set (.enable name) := by
  unfold optionDirective
  cases value <;> exact nofun

/-- A key switches on only the rule of its own name, and only by a value that says so. -/
theorem of_enable_mem_keyDirectives {key rule : String} {value : Json.Value}
    (h : .set (.enable rule) ∈ keyDirectives key value) :
    isOn value = true ∧ rule = Text.lower key := by
  unfold keyDirectives at h
  by_cases hmeta : isMetaKey key = true
  · simp [hmeta] at h
  · rw [if_neg hmeta] at h
    cases value with
    | bool b => cases b <;> simp [isOn] at h ⊢; exact h
    | object options =>
      rcases List.mem_cons.mp h with h | h
      · refine ⟨rfl, ?_⟩
        simpa using h
      · obtain ⟨⟨option, v⟩, -, hv⟩ := List.mem_map.mp h
        exact absurd hv (optionDirective_ne_enable _ option rule v)
    | null => simp at h
    | int n => simp at h
    | float x => simp at h
    | str s => simp at h
    | list items => simp at h

/-- Every rule that is switched on is switched on by a key of the configuration. -/
theorem exists_of_enable_mem_directives {config : Config} {rule : String}
    (h : .set (.enable rule) ∈ directives config) :
    ∃ field ∈ config, isOn field.2 = true ∧ rule = Text.lower field.1 := by
  rw [directives, List.mem_append] at h
  rcases h with h | h
  · -- The pass over the known rules only switches off.
    by_cases hoff : defaultsOff config = true
    · rw [if_pos hoff, disableUnlisted, List.mem_map] at h
      obtain ⟨⟨known, aliases⟩, -, heq⟩ := h
      simp at heq
    · simp [hoff] at h
  · obtain ⟨field, hfield, h⟩ := List.mem_flatMap.mp h
    exact ⟨field, hfield, of_enable_mem_keyDirectives h⟩

/-! ## The configuration of a fenced block -/

/-- No key that switches a rule on is left for a suppressed rule. -/
theorem lower_not_mem_suppressedNames {config : Config} {field : String × Json.Value}
    (hfield : field ∈ nestedConfig config) (hon : isOn field.2 = true) :
    Text.lower field.1 ∉ suppressedNames := by
  rw [nestedConfig, List.mem_append] at hfield
  rcases hfield with h | h
  · have hkept := (List.mem_filter.mp h).2
    simpa using hkept
  · obtain ⟨rule, -, rfl⟩ := List.mem_map.mp h
    simp [isOn] at hon

/-- The suppressed rules are switched off under their identifiers in lower case. -/
theorem disable_mem_directives_nestedConfig (config : Config) {rule : String}
    (hrule : rule ∈ suppressed) :
    .set (.disable (Text.lower rule)) ∈ directives (nestedConfig config) := by
  have hmeta : ∀ rule ∈ suppressed, isMetaKey rule = false := by decide
  rw [directives, List.mem_append]
  right
  refine List.mem_flatMap.mpr ⟨(rule, .bool false), ?_, ?_⟩
  · exact List.mem_append_right _ (List.mem_map.mpr ⟨rule, hrule, rfl⟩)
  · simp [keyDirectives, hmeta rule hrule]

/-- The configuration of a block depends only on the keys that name no suppressed rule. -/
theorem nestedConfig_congr {config other : Config}
    (h : (other.filter fun field => !suppressedNames.contains (Text.lower field.1)) =
      config.filter fun field => !suppressedNames.contains (Text.lower field.1)) :
    nestedConfig other = nestedConfig config := by
  rw [nestedConfig, nestedConfig, h]

/-- A configuration that is one of a block already stays as it is. -/
theorem nestedConfig_nestedConfig (config : Config) :
    nestedConfig (nestedConfig config) = nestedConfig config := by
  -- The keys that were added name suppressed rules, so they are what the second pass drops.
  have hadded : ((suppressed.map fun rule => (rule, Json.Value.bool false)).filter
      fun field => !suppressedNames.contains (Text.lower field.1)) = [] := by
    rw [List.filter_map, List.map_eq_nil_iff]
    decide
  apply nestedConfig_congr
  rw [nestedConfig, List.filter_append, hadded, List.append_nil, List.filter_filter]
  simp only [Bool.and_self]

/-! ## Linting a fenced block -/

variable {scanner : Scanner} {config : Config} {content : String}

/-- The directives for a block switch the two rules off and none of their names on. -/
theorem directives_nestedConfig_spec (config : Config) :
    .set (.disable "md041") ∈ directives (nestedConfig config) ∧
      .set (.disable "md051") ∈ directives (nestedConfig config) ∧
      ∀ rule, .set (.enable rule) ∈ directives (nestedConfig config) → rule ∉ suppressedNames := by
  have h41 : Text.lower "MD041" = "md041" := by decide +kernel
  have h51 : Text.lower "MD051" = "md051" := by decide +kernel
  refine ⟨?_, ?_, ?_⟩
  · rw [← h41]
    exact disable_mem_directives_nestedConfig config (by decide)
  · rw [← h51]
    exact disable_mem_directives_nestedConfig config (by decide)
  · intro rule hrule
    obtain ⟨field, hfield, hon, rfl⟩ := exists_of_enable_mem_directives hrule
    exact lower_not_mem_suppressedNames hfield hon

/-- A setting in the trace comes from the directive that makes it. -/
theorem setting_mem_map_event {ds : List Directive} {s : Setting} :
    Event.setting s ∈ ds.map Directive.event ↔ .set s ∈ ds := by
  rw [List.mem_map]
  constructor
  · rintro ⟨d, hd, heq⟩
    cases d with
    | set s' =>
      obtain rfl : s' = s := by simpa [Directive.event] using heq
      exact hd
    | log level message => simp [Directive.event] at heq
  · intro hs
    exact ⟨.set s, hs, rfl⟩

/-- The findings of a scan are what the scanner reports under the settings in the trace. -/
theorem exists_violations_of_scanning {findings : List Finding}
    (h : (scanning scanner content config).result = .ok findings) :
    let made := (scanning scanner content config).trace.filterMap Event.setting?
    made = settings config ∧
      ∃ violations, scanner made content = .ok violations ∧
        findings = violations.map Finding.ofViolation := by
  cases hconfigured : (configure config).result with
  | error e =>
    rw [scanning_eq_of_error hconfigured] at h
    simp at h
  | ok u =>
    rw [scanning_eq_of_ok hconfigured] at h ⊢
    have hmade : ((directives config).map Directive.event ++ [Event.scan content]).filterMap
        Event.setting? = settings config := by
      rw [List.filterMap_append, ← settings_eq_filterMap]
      exact List.append_nil _
    intro made
    refine ⟨hmade, ?_⟩
    rw [show made = settings config from hmade]
    by_cases hblank : Text.isBlankText content = true
    · simp [hblank] at h
    · cases hscan : scanner (settings config) content with
      | error reason => simp [hblank, hscan] at h
      | ok violations =>
        refine ⟨violations, rfl, ?_⟩
        simpa [hblank, hscan, eq_comm] using h

/-- No configuration brings a suppressed rule back in a fenced block.  Before the text is scanned
both rules are switched off and none of their names is switched on, so a scanner that obeys its
settings reports neither; what the configuration says about them changes nothing; and the
configuration of a block is that of a block in the block. -/
theorem suppressed_under_every_config (scanner : Scanner) (config : Config) (content : String) :
    let outcome := (scanning scanner).lintNested config content
    (∀ pre text post, outcome.trace = pre ++ .scan text :: post →
      .setting (.disable "md041") ∈ pre ∧ .setting (.disable "md051") ∈ pre ∧
        ∀ rule, .setting (.enable rule) ∈ pre → rule ∉ suppressedNames) ∧
    (scanner.Obeys → ∀ findings, outcome.result = .ok findings →
      ∃ violations, scanner (outcome.trace.filterMap Event.setting?) content = .ok violations ∧
        findings = violations.map Finding.ofViolation ∧
        ∀ v ∈ violations, Text.lower v.rule ≠ "md041" ∧ Text.lower v.rule ≠ "md051") ∧
    (∀ other : Config,
      (other.filter fun field => !suppressedNames.contains (Text.lower field.1)) =
        (config.filter fun field => !suppressedNames.contains (Text.lower field.1)) →
      (scanning scanner).lintNested other content = outcome) ∧
    nestedConfig (nestedConfig config) = nestedConfig config := by
  intro outcome
  obtain ⟨h41, h51, hon⟩ := directives_nestedConfig_spec config
  refine ⟨?_, ?_, ?_, nestedConfig_nestedConfig config⟩
  · intro pre text post htrace
    rw [eq_of_trace_scanning htrace]
    refine ⟨setting_mem_map_event.mpr h41, setting_mem_map_event.mpr h51, ?_⟩
    intro rule hrule
    exact hon rule (setting_mem_map_event.mp hrule)
  · intro hobeys findings hresult
    obtain ⟨hmade, violations, hscan, hfindings⟩ := exists_violations_of_scanning hresult
    have hset : ∀ s, .set s ∈ directives (nestedConfig config) →
        s ∈ outcome.trace.filterMap Event.setting? := by
      intro s hs
      rw [show outcome.trace.filterMap Event.setting? = _ from hmade, settings_eq_filterMap]
      exact List.mem_filterMap.mpr ⟨_, setting_mem_map_event.mpr hs, rfl⟩
    refine ⟨violations, hscan, hfindings, ?_⟩
    intro v hv
    have hoff := hobeys _ _ _ hscan v hv
    refine ⟨?_, ?_⟩
    · intro h
      exact hoff (h ▸ hset _ h41)
    · intro h
      exact hoff (h ▸ hset _ h51)
  · intro other hother
    show scanning scanner content (nestedConfig other) = scanning scanner content _
    rw [nestedConfig_congr hother]

/-! ## Line start rules -/

/-- A scanner of line start rules obeys its settings. -/
theorem obeys_lineStartScanner (rules : List LineStartRule) : (lineStartScanner rules).Obeys := by
  intro settings content violations hscan v hv hoff
  obtain rfl : _ = violations := Except.ok.inj hscan
  obtain ⟨⟨number, line⟩, -, hv⟩ := List.mem_flatMap.mp hv
  obtain ⟨r, hr, hreport⟩ := List.mem_filterMap.mp hv
  have hrule : v.rule = r.rule := by
    unfold LineStartRule.report? at hreport
    by_cases hstart : r.start.toList.isPrefixOf line = true
    · rw [if_pos hstart] at hreport
      rw [← Option.some.inj hreport]
    · simp [hstart] at hreport
  have hon : r.isOff settings = false := by simpa using (List.mem_filter.mp hr).2
  rw [LineStartRule.isOff, List.any_eq_false] at hon
  exact hon _ hoff (by simp [hrule])

/-- A configuration that tries three names of the suppressed rules, in other letters and with
options, besides a rule of its own: only the latter is reported. -/
theorem suppressed_under_hostile_config :
    let rule := fun id => LineStartRule.mk "#" id none "" none none
    let scanner := lineStartScanner [rule "MD041", rule "Md051", rule "MD022"]
    let config : Config := [("default", .bool false), ("Md041", .bool true),
      ("First-Line-Heading", .object [("level", .int 2)]), ("LINK-FRAGMENTS", .bool true),
      ("MD022", .bool true)]
    let outcome := (scanning scanner).lintNested config "# a\n"
    scanner.Obeys ∧ outcome.result = .ok [⟨["MD022"], "", 1, none, none⟩] ∧
      (∃ pre post, outcome.trace = pre ++ .scan "# a\n" :: post ∧
        .setting (.disable "md041") ∈ pre ∧ .setting (.disable "md051") ∈ pre ∧
        ∀ rule, .setting (.enable rule) ∈ pre → rule ∉ suppressedNames) ∧
      (∃ violations, scanner (outcome.trace.filterMap Event.setting?) "# a\n" = .ok violations ∧
        ∀ v ∈ violations, Text.lower v.rule ≠ "md041" ∧ Text.lower v.rule ≠ "md051") ∧
      outcome = (scanning scanner).lintNested
        [("default", .bool false), ("MD022", .bool true)] "# a\n" := by
  intro rule scanner config outcome
  obtain ⟨hbefore, hfindings, hother, -⟩ := suppressed_under_every_config scanner config "# a\n"
  have hconfigured : (configure (nestedConfig config)).result = .ok () := by
    have hnamed : (directives (nestedConfig config)).any Directive.isBlank = false := by
      decide +kernel
    simp [configure, forM_follow, hnamed]
  have houtcome : outcome = _ := scanning_eq_of_ok hconfigured
  have htrace : outcome.trace = _ ++ .scan "# a\n" :: [] := congrArg Traced.trace houtcome
  have hresult : outcome.result = .ok [⟨["MD022"], "", 1, none, none⟩] :=
    (congrArg Traced.result houtcome).trans (congrArg Except.ok (by decide +kernel))
  obtain ⟨violations, hscan, -, hclean⟩ := hfindings (obeys_lineStartScanner _) _ hresult
  have hplain := hother [("default", .bool false), ("MD022", .bool true)] rfl
  exact ⟨obeys_lineStartScanner _, hresult, ⟨_, _, htrace, hbefore _ _ _ htrace⟩,
    ⟨violations, hscan, hclean⟩, hplain.symm⟩

end Rules

end FenceLint
