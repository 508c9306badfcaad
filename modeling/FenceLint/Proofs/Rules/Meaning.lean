import FenceLint.Proofs.Rules.Suppression
import FenceLint.Proofs.Text.Lower
import Mathlib.Data.List.Nodup

/-!
# What a configuration means

A configuration names rules by their identifiers or aliases, in any letters.  This module says which
settings it makes, as one equation (`settings_eq`), and what they mean for a rule under all of its
names: the rule is switched on if one of its keys says so, and off if one of them says so or if the
configuration switches off by default what no key switches on.

The two passes over a configuration meet in the names of the rules.  The first one, over the known
rules, has to see a rule that is switched on under any of its names; the second one, over the keys,
may switch off the same rule under another name.  What keeps them apart from the keys that name no
rule are a few facts about the table of rules (`names_apart`, `eq_of_mem_names`).

Keys are texts of characters.  A file may have keys that differ only in escaped halves of surrogate
pairs; on reading, these became one key (`Json.Reader.unitChar`), and it is that key which has a
meaning here.

Main statement: `configure_means`.
-/

namespace FenceLint

/-- The setting sets an option of a rule. -/
def Setting.isProperty : Setting → Bool
  | .enable _ | .disable _ => false
  | .boolean _ _ | .integer _ _ | .text _ _ => true

namespace Rules

/-! ## Rules and keys -/

/-- The identifier of a rule and its aliases. -/
def names (rule : String × List String) : List String := rule.1 :: rule.2

/-- The value switches a rule on: it is true or an object. -/
def TurnsOn (value : Json.Value) : Prop := value = .bool true ∨ ∃ options, value = .object options

/-- The value switches a rule: it is a truth value or an object. -/
def Switches (value : Json.Value) : Prop :=
  (∃ b, value = .bool b) ∨ ∃ options, value = .object options

/-- A key of the configuration switches the rule on, under one of its names. -/
def On (config : Config) (rule : String × List String) : Prop :=
  ∃ field ∈ config, Text.lower field.1 ∈ names rule ∧ TurnsOn field.2

/-- A key of the configuration switches the rule off, under one of its names. -/
def Off (config : Config) (rule : String × List String) : Prop :=
  ∃ field ∈ config, Text.lower field.1 ∈ names rule ∧ field.2 = .bool false

/-- The setting that an option of a rule asks for; only truth values, whole numbers and texts can be
set. -/
def property? (rule option : String) : Json.Value → Option Setting
  | .bool b => some (.boolean ("plugins." ++ rule ++ "." ++ option) b)
  | .int n => some (.integer ("plugins." ++ rule ++ "." ++ option) n)
  | .str s => some (.text ("plugins." ++ rule ++ "." ++ option) s)
  | _ => none

/-- The options that a configuration sets, key by key. -/
def properties (config : Config) : List Setting :=
  config.flatMap fun (key, value) =>
    match value with
    | .object options =>
      if isMetaKey key then []
      else options.filterMap fun (option, v) => property? (Text.lower key) option v
    | _ => []

theorem TurnsOn.switches {value : Json.Value} (h : TurnsOn value) : Switches value :=
  h.imp (fun htrue => ⟨true, htrue⟩) id

/-- A value that switches a rule switches it on or off. -/
theorem Switches.turnsOn_or {value : Json.Value} (h : Switches value) :
    TurnsOn value ∨ value = .bool false := by
  rcases h with ⟨b, rfl⟩ | hobject
  · cases b with
    | true => exact .inl (.inl rfl)
    | false => exact .inr rfl
  · exact .inl (.inr hobject)

theorem isOn_iff {value : Json.Value} : isOn value = true ↔ TurnsOn value := by
  unfold isOn TurnsOn
  split
  · simp
  · simp
  · next htrue hobject =>
    simp only [Bool.false_eq_true, false_iff, not_or, not_exists]
    exact ⟨htrue, hobject⟩

theorem defaultsOff_iff {config : Config} :
    defaultsOff config = true ↔ config.get? "default" = some (.bool false) := by
  unfold defaultsOff
  split
  · next h => simp [h]
  · next h =>
    simp only [Bool.false_eq_true, false_iff]
    exact h

/-! ## The table of rules -/

/-- Identifiers start with one letter, aliases with another one, and none with a dollar sign. -/
theorem front?_of_mem_known : ∀ rule ∈ known, rule.1.front? = some 'm' ∧
    ∀ name ∈ rule.2, name.front? ≠ some 'm' ∧ name.front? ≠ some '$' := by
  decide +kernel

/-- No rule has the name of a key that names no rule. -/
theorem meta_not_mem_names : ∀ rule ∈ known, "extends" ∉ names rule ∧ "default" ∉ names rule := by
  decide +kernel

/-- No two rules have the same identifier. -/
theorem nodup_known : (known.map Prod.fst).Nodup := by
  decide +kernel

/-- An identifier is a name of its own rule only. -/
theorem eq_of_mem_names {rule other : String × List String} (hrule : rule ∈ known)
    (hother : other ∈ known) (h : other.1 ∈ names rule) : other = rule := by
  rcases List.mem_cons.1 h with h | h
  · exact List.inj_on_of_nodup_map nodup_known hother hrule h
  · obtain ⟨hne, -⟩ := (front?_of_mem_known rule hrule).2 _ h
    exact absurd (front?_of_mem_known other hother).1 hne

/-- A text that starts with a visible character is not blank. -/
theorem isBlankText_eq_false_of_front {s : String} {c : Char} (h : s.front? = some c)
    (hc : Text.isBlank c = false) : Text.isBlankText s = false := by
  rw [String.front?_eq] at h
  rw [Text.isBlankText]
  cases hs : s.toList with
  | nil => simp [hs] at h
  | cons d cs =>
    obtain rfl : d = c := by simpa [hs] using h
    simp [hc]

/-- The keys that name no rule. -/
theorem isMetaKey_iff {key : String} :
    isMetaKey key = true ↔ key.toList.head? = some '$' ∨ key = "extends" ∨ key = "default" := by
  simp [isMetaKey, or_assoc]

/-- A key that names a rule is none of those that do not. -/
theorem isMetaKey_of_lower_mem_names {rule : String × List String} (hrule : rule ∈ known)
    {key : String} (h : Text.lower key ∈ names rule) : isMetaKey key = false := by
  rw [Bool.eq_false_iff, ne_eq, isMetaKey_iff]
  obtain ⟨hextends, hdefault⟩ := meta_not_mem_names rule hrule
  rintro (hdollar | rfl | rfl)
  · have hfront := Text.head?_lower_of_dollar hdollar
    rw [← String.front?_eq] at hfront
    obtain ⟨hid, haliases⟩ := front?_of_mem_known rule hrule
    rcases List.mem_cons.1 h with h | h
    · rw [h, hid] at hfront
      simp at hfront
    · exact (haliases _ h).2 hfront
  · rw [show Text.lower "extends" = "extends" by decide +kernel] at h
    exact hextends h
  · rw [show Text.lower "default" = "default" by decide +kernel] at h
    exact hdefault h

/-- A blank key is none of those that name no rule. -/
theorem isMetaKey_of_isBlankText {key : String} (h : Text.isBlankText key = true) :
    isMetaKey key = false := by
  rw [Bool.eq_false_iff, ne_eq, isMetaKey_iff]
  rintro (hdollar | rfl | rfl)
  · rw [← String.front?_eq] at hdollar
    rw [isBlankText_eq_false_of_front hdollar (by decide)] at h
    contradiction
  · exact absurd h (by decide +kernel)
  · exact absurd h (by decide +kernel)

/-! ## Settings -/

/-- The settings that one key of a configuration asks for. -/
def keySettings (key : String) (value : Json.Value) : List Setting :=
  if isMetaKey key then []
  else
    match value with
    | .bool true => [.enable (Text.lower key)]
    | .bool false => [.disable (Text.lower key)]
    | .object options =>
      .enable (Text.lower key) ::
        options.filterMap fun (option, v) => property? (Text.lower key) option v
    | _ => []

/-- The known rules that no key of the configuration switches on. -/
def unlisted (config : Config) : List (String × List String) :=
  known.filter fun rule => !(names rule).any (enabledNames config).contains

/-- The setting of a directive, if it makes one. -/
def setting? : Directive → Option Setting
  | .set s => some s
  | .log _ _ => none

theorem setting?_optionDirective (rule option : String) (value : Json.Value) :
    setting? (optionDirective rule option value) = property? rule option value := by
  unfold optionDirective
  cases value <;> rfl

theorem filterMap_keyDirectives (key : String) (value : Json.Value) :
    (keyDirectives key value).filterMap setting? = keySettings key value := by
  unfold keyDirectives keySettings
  split
  · rfl
  · cases value with
    | bool b =>
      cases b with
      | true => rfl
      | false => rfl
    | object options =>
      have hoptions : (options.map fun (option, v) =>
          optionDirective (Text.lower key) option v).filterMap setting? =
          options.filterMap fun (option, v) => property? (Text.lower key) option v := by
        rw [List.filterMap_map]
        congr 1
        funext field
        apply setting?_optionDirective
      exact congrArg (Setting.enable (Text.lower key) :: ·) hoptions
    | null | int | float | str | list => rfl

/-- The settings of a configuration: first those of the pass over the known rules, if it switches
off by default, then those of its keys. -/
theorem settings_eq (config : Config) :
    settings config =
      (if defaultsOff config then (unlisted config).map fun rule => .disable rule.1 else []) ++
        config.flatMap fun field => keySettings field.1 field.2 := by
  have hsettings : settings config = (directives config).filterMap setting? := by
    rw [settings]
    rfl
  rw [hsettings, directives, List.filterMap_append, List.filterMap_flatMap]
  congr 1
  · split
    · rw [disableUnlisted, List.filterMap_map, unlisted, ← List.filterMap_eq_map]
      rfl
    · rfl
  · apply List.flatMap_congr
    intro field _
    exact filterMap_keyDirectives field.1 field.2

/-- What a key can ask for: to switch its rule on or off, or to set an option of it. -/
theorem mem_keySettings_iff {key : String} {value : Json.Value} {s : Setting} :
    s ∈ keySettings key value ↔ isMetaKey key = false ∧
      (s = .enable (Text.lower key) ∧ TurnsOn value ∨
        s = .disable (Text.lower key) ∧ value = .bool false ∨
        ∃ options field, value = .object options ∧ field ∈ options ∧
          property? (Text.lower key) field.1 field.2 = some s) := by
  unfold keySettings TurnsOn
  by_cases hmeta : isMetaKey key = true
  · simp [hmeta]
  · rw [if_neg hmeta]
    cases value with
    | bool b =>
      cases b with
      | true => simp [hmeta]
      | false => simp [hmeta]
    | object options => simp [hmeta]
    | null | int | float | str | list => simp

theorem isProperty_of_property? {rule option : String} {value : Json.Value} {s : Setting}
    (h : property? rule option value = some s) : s.isProperty = true := by
  unfold property? at h
  split at h
  · obtain rfl := Option.some.inj h
    rfl
  · obtain rfl := Option.some.inj h
    rfl
  · obtain rfl := Option.some.inj h
    rfl
  · contradiction

/-! ## Switching rules -/

variable {config : Config}

/-- A rule is switched on under the names of the keys that say so. -/
theorem enable_mem_settings_iff {name : String} :
    .enable name ∈ settings config ↔ ∃ field ∈ config,
      isMetaKey field.1 = false ∧ name = Text.lower field.1 ∧ TurnsOn field.2 := by
  rw [settings_eq, List.mem_append, List.mem_flatMap]
  constructor
  · rintro (h | ⟨field, hfield, h⟩)
    · -- The pass over the known rules only switches off.
      split at h
      · obtain ⟨rule, -, hrule⟩ := List.mem_map.1 h
        contradiction
      · contradiction
    · obtain ⟨hmeta, ⟨hname, hon⟩ | ⟨hname, -⟩ | ⟨options, option, -, -, hname⟩⟩ :=
        mem_keySettings_iff.1 h
      · exact ⟨field, hfield, hmeta, Setting.enable.inj hname, hon⟩
      · contradiction
      · exact absurd (isProperty_of_property? hname) (by simp [Setting.isProperty])
  · rintro ⟨field, hfield, hmeta, rfl, hon⟩
    exact .inr ⟨field, hfield, mem_keySettings_iff.2 ⟨hmeta, .inl ⟨rfl, hon⟩⟩⟩

/-- The names of the keys that switch a rule on. -/
theorem mem_enabledNames_iff {name : String} :
    name ∈ enabledNames config ↔ ∃ field ∈ config, name = Text.lower field.1 ∧ TurnsOn field.2 := by
  simp only [enabledNames, List.mem_map, List.mem_filter, isOn_iff]
  constructor
  · rintro ⟨field, ⟨hfield, hon⟩, rfl⟩
    exact ⟨field, hfield, rfl, hon⟩
  · rintro ⟨field, hfield, rfl, hon⟩
    exact ⟨field, ⟨hfield, hon⟩, rfl⟩

/-- The pass over the known rules sees a rule that is switched on under any of its names. -/
theorem any_enabledNames_iff {rule : String × List String} :
    (names rule).any (enabledNames config).contains = true ↔ On config rule := by
  simp only [List.any_eq_true, List.contains_iff_mem, mem_enabledNames_iff]
  constructor
  · rintro ⟨name, hname, field, hfield, rfl, hon⟩
    exact ⟨field, hfield, hname, hon⟩
  · rintro ⟨field, hfield, hname, hon⟩
    exact ⟨_, hname, field, hfield, rfl, hon⟩

/-- A rule is unlisted if no key switches it on. -/
theorem mem_unlisted_iff {rule : String × List String} :
    rule ∈ unlisted config ↔ rule ∈ known ∧ ¬ On config rule := by
  rw [unlisted, List.mem_filter, Bool.not_eq_true', ← any_enabledNames_iff, Bool.not_eq_true]

/-- A rule is switched off under the names of the keys that say so, and under its identifier if it
is unlisted and the configuration switches off by default. -/
theorem disable_mem_settings_iff {name : String} :
    .disable name ∈ settings config ↔
      (config.get? "default" = some (.bool false) ∧
        ∃ rule ∈ known, name = rule.1 ∧ ¬ On config rule) ∨
      ∃ field ∈ config, isMetaKey field.1 = false ∧ name = Text.lower field.1 ∧
        field.2 = .bool false := by
  rw [settings_eq, List.mem_append, List.mem_flatMap]
  apply or_congr
  · rw [← defaultsOff_iff]
    by_cases hoff : defaultsOff config = true
    · simp only [hoff, if_true, true_and, List.mem_map, mem_unlisted_iff, Setting.disable.injEq]
      constructor
      · rintro ⟨rule, ⟨hrule, hon⟩, rfl⟩
        exact ⟨rule, hrule, rfl, hon⟩
      · rintro ⟨rule, hrule, rfl, hon⟩
        exact ⟨rule, ⟨hrule, hon⟩, rfl⟩
    · simp [hoff]
  · constructor
    · rintro ⟨field, hfield, h⟩
      obtain ⟨hmeta, ⟨hname, -⟩ | ⟨hname, hoff⟩ | ⟨options, option, -, -, hname⟩⟩ :=
        mem_keySettings_iff.1 h
      · contradiction
      · exact ⟨field, hfield, hmeta, Setting.disable.inj hname, hoff⟩
      · exact absurd (isProperty_of_property? hname) (by simp [Setting.isProperty])
    · rintro ⟨field, hfield, hmeta, rfl, hoff⟩
      exact ⟨field, hfield, mem_keySettings_iff.2 ⟨hmeta, .inr (.inl ⟨rfl, hoff⟩)⟩⟩

/-- A known rule is switched on under one of its names if a key says so. -/
theorem exists_enable_mem_settings_iff {rule : String × List String} (hrule : rule ∈ known) :
    (∃ name ∈ names rule, .enable name ∈ settings config) ↔ On config rule := by
  simp only [enable_mem_settings_iff]
  constructor
  · rintro ⟨name, hname, field, hfield, -, rfl, hon⟩
    exact ⟨field, hfield, hname, hon⟩
  · rintro ⟨field, hfield, hname, hon⟩
    exact ⟨_, hname, field, hfield, isMetaKey_of_lower_mem_names hrule hname, rfl, hon⟩

/-- A known rule is switched off under one of its names if a key says so, or by default if no key
switches it on. -/
theorem exists_disable_mem_settings_iff {rule : String × List String} (hrule : rule ∈ known) :
    (∃ name ∈ names rule, .disable name ∈ settings config) ↔
      Off config rule ∨ config.get? "default" = some (.bool false) ∧ ¬ On config rule := by
  simp only [disable_mem_settings_iff]
  constructor
  · rintro ⟨name, hname, ⟨hdefault, other, hother, rfl, hon⟩ | ⟨field, hfield, -, rfl, hoff⟩⟩
    · -- The identifier is a name of this rule, so it is the identifier of this rule.
      obtain rfl := eq_of_mem_names hrule hother hname
      exact .inr ⟨hdefault, hon⟩
    · exact .inl ⟨field, hfield, hname, hoff⟩
  · rintro (⟨field, hfield, hname, hoff⟩ | ⟨hdefault, hon⟩)
    · exact ⟨_, hname, .inr ⟨field, hfield, isMetaKey_of_lower_mem_names hrule hname, rfl, hoff⟩⟩
    · exact ⟨rule.1, List.mem_cons_self, .inl ⟨hdefault, rule, hrule, rfl, hon⟩⟩

/-! ## Options -/

/-- The options of a key that are set. -/
theorem filter_isProperty_keySettings (key : String) (value : Json.Value) :
    (keySettings key value).filter Setting.isProperty =
      match value with
      | .object options =>
        if isMetaKey key then []
        else options.filterMap fun (option, v) => property? (Text.lower key) option v
      | _ => [] := by
  unfold keySettings
  by_cases hmeta : isMetaKey key = true
  · cases value <;> simp [hmeta]
  · rw [if_neg hmeta]
    cases value with
    | bool b =>
      cases b with
      | true => rfl
      | false => rfl
    | object options =>
      simp only [if_neg hmeta]
      rw [List.filter_cons_of_neg (by simp [Setting.isProperty]), List.filter_eq_self]
      intro s hs
      obtain ⟨field, -, hs⟩ := List.mem_filterMap.1 hs
      exact isProperty_of_property? hs
    | null | int | float | str | list => rfl

/-- The options that are set are those of the keys, in order. -/
theorem filter_isProperty_settings (config : Config) :
    (settings config).filter Setting.isProperty = properties config := by
  have hoff : (if defaultsOff config then (unlisted config).map fun rule =>
      Setting.disable rule.1 else []).filter Setting.isProperty = [] := by
    split
    · rw [List.filter_map, List.map_eq_nil_iff, List.filter_eq_nil_iff]
      intro rule _
      simp [Setting.isProperty]
    · rfl
  rw [settings_eq, List.filter_append, hoff, List.nil_append, List.filter_flatMap, properties]
  apply List.flatMap_congr
  intro field _
  exact filter_isProperty_keySettings field.1 field.2

/-! ## Rules without a name -/

/-- Every key that switches a rule has a name to switch it under. -/
def Named (config : Config) : Prop :=
  ¬ ∃ field ∈ config, Switches field.2 ∧ Text.strip field.1 = ""

theorem isBlank_of_isProperty {s : Setting} (h : s.isProperty = true) : s.isBlank = false := by
  cases s with
  | enable | disable => contradiction
  | boolean | integer | text => rfl

/-- What a key asks for is set. -/
theorem mem_settings_of_mem_keySettings {field : String × Json.Value} (hfield : field ∈ config)
    {s : Setting} (hs : s ∈ keySettings field.1 field.2) : s ∈ settings config := by
  rw [settings_eq]
  exact List.mem_append_right _ (List.mem_flatMap.2 ⟨field, hfield, hs⟩)

/-- Only a key without a name asks for a setting without a name. -/
theorem exists_isBlank_mem_settings_iff :
    (∃ s ∈ settings config, s.isBlank = true) ↔
      ∃ field ∈ config, Switches field.2 ∧ Text.strip field.1 = "" := by
  have hstrip : ∀ key : String, Text.isBlankText (Text.lower key) = true ↔ Text.strip key = "" := by
    intro key
    rw [Text.isBlankText_lower, Text.isBlankText_iff]
  constructor
  · rintro ⟨s, hs, hblank⟩
    rw [settings_eq, List.mem_append, List.mem_flatMap] at hs
    rcases hs with hs | ⟨field, hfield, hs⟩
    · -- The pass over the known rules uses identifiers, which are not blank.
      split at hs
      · obtain ⟨rule, hrule, rfl⟩ := List.mem_map.1 hs
        have hfront := (front?_of_mem_known rule (mem_unlisted_iff.1 hrule).1).1
        have hnamed := isBlankText_eq_false_of_front hfront (by decide)
        rw [Setting.isBlank, hnamed] at hblank
        contradiction
      · contradiction
    · obtain ⟨-, ⟨rfl, hon⟩ | ⟨rfl, hoff⟩ | ⟨options, option, -, -, hoption⟩⟩ :=
        mem_keySettings_iff.1 hs
      · exact ⟨field, hfield, hon.switches, (hstrip field.1).1 hblank⟩
      · exact ⟨field, hfield, .inl ⟨false, hoff⟩, (hstrip field.1).1 hblank⟩
      · rw [isBlank_of_isProperty (isProperty_of_property? hoption)] at hblank
        contradiction
  · rintro ⟨field, hfield, hswitches, hkey⟩
    have hblank := (hstrip field.1).2 hkey
    have hmeta := isMetaKey_of_isBlankText ((Text.isBlankText_iff field.1).2 hkey)
    rcases hswitches.turnsOn_or with hon | hoff
    · refine ⟨.enable (Text.lower field.1), ?_, hblank⟩
      apply mem_settings_of_mem_keySettings hfield
      exact mem_keySettings_iff.2 ⟨hmeta, .inl ⟨rfl, hon⟩⟩
    · refine ⟨.disable (Text.lower field.1), ?_, hblank⟩
      apply mem_settings_of_mem_keySettings hfield
      exact mem_keySettings_iff.2 ⟨hmeta, .inr (.inl ⟨rfl, hoff⟩)⟩

/-- Applying a configuration fails exactly when a key without a name switches a rule. -/
theorem result_configure (config : Config) :
    (configure config).result = .error .blankRule ∧ ¬ Named config ∨
      (configure config).result = .ok () ∧ Named config := by
  have hany : (directives config).any Directive.isBlank = true ↔ ¬ Named config := by
    rw [Named, not_not, ← exists_isBlank_mem_settings_iff, settings_eq_filterMap,
      List.any_eq_true]
    constructor
    · rintro ⟨d, hd, hblank⟩
      cases d with
      | log level message => contradiction
      | set s =>
        exact ⟨s, List.mem_filterMap.2 ⟨_, setting_mem_map_event.2 hd, rfl⟩, hblank⟩
    · rintro ⟨s, hs, hblank⟩
      obtain ⟨e, he, hsetting⟩ := List.mem_filterMap.1 hs
      obtain ⟨d, hd, rfl⟩ := List.mem_map.1 he
      cases d with
      | log level message => contradiction
      | set s' =>
        obtain rfl : s' = s := Option.some.inj hsetting
        exact ⟨_, hd, hblank⟩
  rw [configure, forM_follow]
  by_cases hnamed : Named config
  · right
    rw [if_neg (fun h => hany.1 h hnamed)]
    exact ⟨rfl, hnamed⟩
  · left
    rw [if_pos (hany.2 hnamed)]
    exact ⟨rfl, hnamed⟩

/-- The settings that are made when a configuration is applied. -/
def made (config : Config) : List Setting := (configure config).trace.filterMap Event.setting?

/-- A configuration whose keys have names makes all of its settings. -/
theorem made_eq_settings (h : Named config) : made config = settings config := by
  rcases result_configure config with ⟨-, hblank⟩ | ⟨hok, -⟩
  · exact absurd h hblank
  · rw [made, configure_eq_of_ok hok, settings_eq_filterMap]

/-! ## Keys that do not matter, and their order -/

/-- In an object with distinct keys, the value of a key is the one that stands beside it. -/
theorem get?_eq_some_iff {key : String} {value : Json.Value} (hkeys : (config.map Prod.fst).Nodup) :
    config.get? key = some value ↔ (key, value) ∈ config := by
  rw [Json.Fields.get?, List.lookup_eq_some_iff]
  constructor
  · rintro ⟨before, after, rfl, -⟩
    simp
  · intro hmem
    obtain ⟨before, after, rfl⟩ := List.append_of_mem hmem
    refine ⟨before, after, rfl, ?_⟩
    intro field hfield
    rw [List.map_append, List.nodup_append] at hkeys
    have hne := hkeys.2.2 field.1 (List.mem_map_of_mem hfield) key (by simp)
    simpa using Ne.symm hne

/-- The key and its value ask for nothing. -/
def Inert (key : String) (value : Json.Value) : Prop :=
  key.toList.head? = some '$' ∨ key = "extends" ∨ ¬ Switches value

theorem Inert.keySettings_eq_nil {key : String} {value : Json.Value} (h : Inert key value) :
    keySettings key value = [] := by
  unfold keySettings
  rcases h with hdollar | rfl | hvalue
  · rw [if_pos (isMetaKey_iff.2 (.inl hdollar))]
  · rfl
  · split
    · rfl
    · cases value with
      | bool b => exact absurd (.inl ⟨b, rfl⟩) hvalue
      | object options => exact absurd (.inr ⟨options, rfl⟩) hvalue
      | null | int | float | str | list => rfl

/-- A key that asks for nothing switches no known rule on. -/
theorem Inert.not_turnsOn {key : String} {value : Json.Value} (h : Inert key value)
    {rule : String × List String} (hrule : rule ∈ known) (hname : Text.lower key ∈ names rule) :
    ¬ TurnsOn value := by
  have hmeta := isMetaKey_of_lower_mem_names hrule hname
  rw [Bool.eq_false_iff, ne_eq, isMetaKey_iff] at hmeta
  rcases h with hdollar | hextends | hvalue
  · exact absurd (.inl hdollar) hmeta
  · exact absurd (.inr (.inl hextends)) hmeta
  · intro hon
    exact hvalue hon.switches

/-- A key that asks for nothing can be left out. -/
theorem settings_without {before after : Config} {key : String} {value : Json.Value}
    (hkeys : ((before ++ (key, value) :: after).map Prod.fst).Nodup) (h : Inert key value) :
    settings (before ++ after) = settings (before ++ (key, value) :: after) := by
  have hkeys' : ((before ++ after).map Prod.fst).Nodup :=
    hkeys.sublist (((List.sublist_cons_self _ _).append_left before).map Prod.fst)
  have hdefault :
      defaultsOff (before ++ after) = defaultsOff (before ++ (key, value) :: after) := by
    have hne : ("default", Json.Value.bool false) ≠ (key, value) := by
      rintro heq
      obtain ⟨rfl, rfl⟩ := Prod.mk.inj heq
      rcases h with hdollar | hextends | hvalue
      · exact absurd hdollar (by decide +kernel)
      · exact absurd hextends (by decide)
      · exact hvalue (.inl ⟨false, rfl⟩)
    rw [Bool.eq_iff_iff, defaultsOff_iff, defaultsOff_iff, get?_eq_some_iff hkeys',
      get?_eq_some_iff hkeys]
    simp [hne]
  have hunlisted : unlisted (before ++ after) = unlisted (before ++ (key, value) :: after) := by
    apply List.filter_congr
    intro rule hrule
    rw [Bool.eq_iff_iff, Bool.not_eq_true', Bool.not_eq_true', ← Bool.not_eq_true,
      ← Bool.not_eq_true, any_enabledNames_iff, any_enabledNames_iff, not_iff_not]
    have hnot : ¬ (Text.lower key ∈ names rule ∧ TurnsOn value) := fun hon =>
      h.not_turnsOn hrule hon.1 hon.2
    simp [On, or_and_right, exists_or, hnot]
  rw [settings_eq, settings_eq, hdefault, hunlisted, List.flatMap_append, List.flatMap_append,
    List.flatMap_cons, h.keySettings_eq_nil, List.nil_append]

/-- Which rules are switched does not depend on the order of the keys. -/
theorem settings_perm {other : Config} (hkeys : (config.map Prod.fst).Nodup)
    (hperm : config.Perm other) (name : String) :
    (.enable name ∈ settings other ↔ .enable name ∈ settings config) ∧
      (.disable name ∈ settings other ↔ .disable name ∈ settings config) := by
  have hkeys' : (other.map Prod.fst).Nodup := (hperm.map Prod.fst).nodup_iff.1 hkeys
  have hmem : ∀ field, field ∈ other ↔ field ∈ config := fun field => hperm.mem_iff.symm
  simp only [enable_mem_settings_iff, disable_mem_settings_iff, get?_eq_some_iff hkeys,
    get?_eq_some_iff hkeys', On, hmem, and_self]

theorem Named.of_mem {other : Config} (h : Named config) (hmem : ∀ field ∈ other, field ∈ config) :
    Named other := by
  rintro ⟨field, hfield, hblank⟩
  exact h ⟨field, hmem field hfield, hblank⟩

/-! ## The meaning -/

/-- What a configuration means.  Applying it fails exactly when a key that switches a rule is blank.
Otherwise a known rule is switched on if one of its keys says so, and off if one of its keys says so
or if it is off by default and no key switches it on; the options of the keys are set one by one, in
order and by their types; and with distinct keys, those that name no rule or have another value
contribute nothing, and the order of the keys does not decide which rules are switched. -/
theorem configure_means (config : Config) :
    ((configure config).result = .error .blankRule ↔
      ∃ field ∈ config, Switches field.2 ∧ Text.strip field.1 = "") ∧
    ((¬ ∃ field ∈ config, Switches field.2 ∧ Text.strip field.1 = "") →
      (configure config).result = .ok () ∧
      (∀ rule ∈ known,
        ((∃ name ∈ names rule, .disable name ∈ made config) ↔
          Off config rule ∨ config.get? "default" = some (.bool false) ∧ ¬ On config rule) ∧
        ((∃ name ∈ names rule, .enable name ∈ made config) ↔ On config rule)) ∧
      (made config).filter Setting.isProperty = properties config ∧
      ((config.map Prod.fst).Nodup →
        (∀ before key value after, config = before ++ (key, value) :: after → Inert key value →
          made (before ++ after) = made config) ∧
        ∀ other, config.Perm other → ∀ name,
          (.enable name ∈ made other ↔ .enable name ∈ made config) ∧
          (.disable name ∈ made other ↔ .disable name ∈ made config))) := by
  refine ⟨?_, ?_⟩
  · rcases result_configure config with ⟨herror, hblank⟩ | ⟨hok, h⟩
    · exact ⟨fun _ => not_not.1 hblank, fun _ => herror⟩
    · rw [hok]
      exact ⟨nofun, fun hblank => absurd hblank h⟩
  · intro h
    rcases result_configure config with ⟨-, hblank⟩ | ⟨hok, -⟩
    · exact absurd h hblank
    · have h : Named config := h
      rw [made_eq_settings h]
      refine ⟨hok, ?_, filter_isProperty_settings config, ?_⟩
      · intro rule hrule
        exact ⟨exists_disable_mem_settings_iff hrule, exists_enable_mem_settings_iff hrule⟩
      · intro hkeys
        refine ⟨?_, ?_⟩
        · rintro before key value after rfl hinert
          rw [made_eq_settings (h.of_mem fun field hfield => by
            simp only [List.mem_append, List.mem_cons] at hfield ⊢
            exact hfield.imp id .inr)]
          exact settings_without hkeys hinert
        · intro other hperm name
          rw [made_eq_settings (h.of_mem fun field => hperm.mem_iff.2)]
          exact settings_perm hkeys hperm name

/-- Off by default, with one rule switched on and off under two of its names, one with options, one
that no key names, and two keys that contribute nothing. -/
theorem configure_means_mixed_config :
    let before : Config := [("default", .bool false),
      ("MD013", .object [("line_length", .int 120), ("strict", .bool true), ("style", .null)])]
    let after : Config := [("Ul-Style", .bool true), ("md004", .bool false), ("MD033", .int 1)]
    let config := before ++ ("$schema", .bool true) :: after
    (configure config).result = .ok () ∧
      (∃ name ∈ ["md004", "ul-style"], .disable name ∈ made config) ∧
      (∃ name ∈ ["md004", "ul-style"], .enable name ∈ made config) ∧
      (∃ name ∈ ["md033", "no-inline-html"], .disable name ∈ made config) ∧
      (¬ ∃ name ∈ ["md013", "line-length"], .disable name ∈ made config) ∧
      (made config).filter Setting.isProperty =
        [.integer "plugins.md013.line_length" 120, .boolean "plugins.md013.strict" true] ∧
      made (before ++ after) = made config ∧
      ∀ name, .disable name ∈ made config.reverse ↔ .disable name ∈ made config := by
  intro before after config
  have hlower : config.map (fun field => Text.lower field.1) =
      ["default", "md013", "$schema", "ul-style", "md004", "md033"] := by decide +kernel
  have hnames : ∀ field ∈ config, Text.strip field.1 ≠ "" := by
    have hall : (config.all fun field => Text.strip field.1 != "") = true := by decide +kernel
    intro field hfield
    simpa using List.all_eq_true.1 hall field hfield
  obtain ⟨-, hmeans⟩ := configure_means config
  obtain ⟨hok, hrules, hproperties, hkeys⟩ :=
    hmeans fun ⟨field, hfield, _, hblank⟩ => hnames field hfield hblank
  obtain ⟨hwithout, hperm⟩ := hkeys (by decide +kernel)
  obtain ⟨hoff, hon⟩ := hrules ("md004", ["ul-style"]) (by decide +kernel)
  obtain ⟨hoff', -⟩ := hrules ("md033", ["no-inline-html"]) (by decide +kernel)
  obtain ⟨hoff'', -⟩ := hrules ("md013", ["line-length"]) (by decide +kernel)
  simp only [config, before, after, List.map_cons, List.map_nil, List.cons_append,
    List.nil_append, List.cons.injEq, and_true] at hlower
  obtain ⟨hdefault, h13, hdollar, hstyle, h4, h33⟩ := hlower
  refine ⟨hok, hoff.2 ?_, hon.2 ?_, hoff'.2 ?_, mt hoff''.1 ?_, ?_, ?_, ?_⟩
  · exact .inl ⟨("md004", .bool false), by simp [config, after], by simp [h4, names], rfl⟩
  · exact ⟨("Ul-Style", .bool true), by simp [config, after], by simp [hstyle, names], .inl rfl⟩
  · refine .inr ⟨rfl, ?_⟩
    simp [On, config, before, after, names, TurnsOn, hdollar, hstyle, h4, h13]
  · simp [On, Off, config, before, after, names, TurnsOn, hdefault, hdollar, hstyle, h4, h13, h33]
  · rw [hproperties]
    decide +kernel
  · exact hwithout before "$schema" (.bool true) after rfl (.inl (by decide +kernel))
  · intro name
    exact (hperm config.reverse (List.reverse_perm config).symm name).2

end Rules

end FenceLint
