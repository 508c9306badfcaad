import FenceLint.Rules.Engine
import Mathlib.Data.List.TakeWhile

/-!
# Applying a configuration

What an engine leaves in the trace when it applies a configuration and scans a text.

Directives are carried out in order, each leaves one event, and the first that switches a rule
without a name ends everything (`forM_follow`).  So a scan comes after all settings of the
configuration (`eq_of_trace_scanning`), and the settings that a scanner works under can be read off
the trace (`settings_eq_filterMap`).
-/

namespace FenceLint

/-- What a directive leaves in the trace when it is carried out. -/
def Directive.event : Directive → Event
  | .set s => .setting s
  | .log level message => .log level message

/-- The directive switches a rule that has no name. -/
def Directive.isBlank : Directive → Bool
  | .set s => s.isBlank
  | .log _ _ => false

/-- The setting that an event tells of. -/
def Event.setting? : Event → Option Setting
  | .setting s => some s
  | _ => none

/-- A directive never hands a text to the scanner. -/
theorem Directive.event_ne_scan (d : Directive) (content : String) : d.event ≠ .scan content := by
  cases d with
  | set s => exact nofun
  | log level message => exact nofun

namespace Rules

variable {config : Config} {content : String} {scanner : Scanner}

/-! ## Directives in order -/

/-- One directive: it fails on a rule without a name, and leaves its event otherwise. -/
theorem follow_eq (d : Directive) :
    follow d = if d.isBlank then Traced.fail .blankRule else Traced.emit d.event := by
  cases d with
  | set s => rfl
  | log level message => rfl

/-- Directives leave their events up to the first that cannot be carried out. -/
theorem forM_follow (ds : List Directive) :
    ds.forM follow =
      ⟨(ds.takeWhile fun d => !d.isBlank).map Directive.event,
        if ds.any Directive.isBlank then .error .blankRule else .ok ()⟩ := by
  induction ds with
  | nil => rfl
  | cons d ds ih =>
    show (follow d >>= fun _ => ds.forM follow) = _
    rw [ih, follow_eq, Traced.bind_eq]
    by_cases hd : d.isBlank = true
    · simp [hd, Traced.fail]
    · simp [hd, Traced.emit]

/-- A configuration that can be applied leaves the events of all its directives. -/
theorem configure_eq_of_ok (h : (configure config).result = .ok ()) :
    configure config = ⟨(directives config).map Directive.event, .ok ()⟩ := by
  rw [configure, forM_follow] at h ⊢
  by_cases hany : (directives config).any Directive.isBlank = true
  · simp [hany] at h
  · have hall : ∀ d ∈ directives config, (!d.isBlank) = true := by
      intro d hd
      by_cases hblank : d.isBlank = true
      · exact absurd (List.any_eq_true.mpr ⟨d, hd, hblank⟩) hany
      · simpa using hblank
    rw [List.takeWhile_eq_self_iff.mpr hall, if_neg hany]

/-- The settings of a configuration are those that its directives tell of. -/
theorem settings_eq_filterMap (config : Config) :
    settings config = ((directives config).map Directive.event).filterMap Event.setting? := by
  rw [settings, List.filterMap_map]
  congr 1
  funext d
  cases d with
  | set s => rfl
  | log level message => rfl

/-! ## Scans -/

/-- Scanning under a configuration that can be applied. -/
theorem scanning_eq_of_ok (h : (configure config).result = .ok ()) :
    scanning scanner content config =
      ⟨(directives config).map Directive.event ++ [.scan content],
        if Text.isBlankText content then .error (.scan (Failure.emptyArgument "path_to_scan"))
        else
          match scanner (settings config) content with
          | .error reason => .error (.scan reason)
          | .ok violations => .ok (violations.map Finding.ofViolation)⟩ := by
  rw [scanning, Traced.bind_eq, configure_eq_of_ok h]
  by_cases hblank : Text.isBlankText content = true
  · simp [hblank, Traced.bind_eq, Traced.emit, Traced.fail]
  · cases scanner (settings config) content with
    | error reason => simp [hblank, Traced.bind_eq, Traced.emit, Traced.fail]
    | ok violations => simp [hblank, Traced.bind_eq, Traced.emit, pure, Traced.pure]

/-- A configuration that cannot be applied ends everything before the scan. -/
theorem scanning_eq_of_error {e : Failure} (h : (configure config).result = .error e) :
    scanning scanner content config = ⟨(configure config).trace, .error e⟩ := by
  rw [scanning, Traced.bind_eq, h]

/-- When a text is scanned, the configuration has been applied. -/
theorem configured_of_scan_mem {text : String}
    (h : .scan text ∈ (scanning scanner content config).trace) :
    (configure config).result = .ok () := by
  cases hresult : (configure config).result with
  | ok _ => rfl
  | error e =>
    rw [scanning_eq_of_error hresult, configure, forM_follow] at h
    obtain ⟨d, -, hd⟩ := List.mem_map.mp h
    exact absurd hd (d.event_ne_scan text)

/-- What comes before the scan in the trace are the events of all directives. -/
theorem eq_of_trace_scanning {pre post : List Event} {text : String}
    (h : (scanning scanner content config).trace = pre ++ .scan text :: post) :
    pre = (directives config).map Directive.event := by
  have hscan : .scan text ∈ (scanning scanner content config).trace := by simp [h]
  have hok := configured_of_scan_mem hscan
  have hnone : ∀ e ∈ (directives config).map Directive.event, e ≠ .scan text := by
    intro e he
    obtain ⟨d, -, rfl⟩ := List.mem_map.mp he
    exact d.event_ne_scan text
  rw [scanning_eq_of_ok hok] at h
  rcases List.append_eq_append_iff.mp h with ⟨mid, hpre, hmid⟩ | ⟨mid, hdirectives, hmid⟩
  · -- Only the scan itself follows the directives, so nothing lies between.
    cases mid with
    | nil => rw [hpre, List.append_nil]
    | cons e mid => simp at hmid
  · cases mid with
    | nil => rw [hdirectives, List.append_nil]
    | cons e mid =>
      obtain ⟨rfl, -⟩ := List.cons_eq_cons.mp hmid
      exact absurd rfl (hnone _ (by simp [hdirectives]))

end Rules

end FenceLint
