import DocRunner.Proofs.Settings.Layers
import DocRunner.Proofs.Settings.Layout
import DocRunner.Proofs.Text.Trim
import DocRunner.Proofs.Tree.Read

/-!
# When settings cannot be settled

* `Settings.Obstacle` : what can keep the settings of a run from being settled, in the order
  in which it is looked for;
* `Obstacle.Holds`, `Obstacle.Reports` : when an obstacle is there, and which failures it leads to.
  Neither depends on the flags;
* `Settings.resolve_cases` : either no obstacle is there, and settling succeeds with all flags, or it fails with
  all flags alike, with a failure of the first obstacle;
* `Settings.resolve_fails_iff` : settling fails exactly if an obstacle is there, and reports the first one.
-/

namespace DocRunner.Settings

/-- What can keep the settings of a run from being settled. -/
inductive Obstacle
  /-- A settings file that was asked for is not there. -/
  | missingFile
  /-- The settings file is there, but cannot be read as a text. -/
  | unreadableFile
  /-- The text in the settings file holds no settings. -/
  | noSettings
  /-- The variable for the port holds something, but no port. -/
  | badPort
  deriving DecidableEq, Repr

/-- Where the settings file stands. -/
def filePath (sh : Shell) (config : Option String) : String := sh.path (config.getD fileName)

namespace Obstacle

/-- The place of an obstacle in the order in which they are looked for. -/
def rank : Obstacle → Nat
  | missingFile => 0
  | unreadableFile => 1
  | noSettings => 2
  | badPort => 3

/-- When an obstacle is there. -/
def Holds (sh : Shell) (t : Tree) (config : Option String) : Obstacle → Prop
  | missingFile => config.isSome ∧ ∀ place, t.resolve [] (filePath sh config) ≠ .ok place
  | unreadableFile =>
    ∃ place e, t.resolve [] (filePath sh config) = .ok place ∧ t.lookup place = some e ∧ ¬ e.IsText
  | noSettings => ∃ text, t.readText [] (filePath sh config) = .ok text ∧ ¬ Layer.IsSettingsText text
  | badPort =>
    ∃ value, sh.vars.get? "PORT" = some value ∧ value ≠ "" ∧ ∀ port, ¬ Text.IsPortText value.toList port

/-- The failures that an obstacle leads to. -/
def Reports (sh : Shell) (t : Tree) (config : Option String) : Obstacle → Failure → Prop
  | missingFile, why => why = .settingsNotFound (filePath sh config)
  | unreadableFile, why => ∃ refusal, t.readText [] (filePath sh config) = .error refusal ∧
      why = .unreadableFile refusal
  | noSettings, why =>
    ∃ text e, t.readText [] (filePath sh config) = .ok text ∧ why = .settingsInvalid (filePath sh config) e ∧
      (e = .malformed ↔ Toml.read? text = none)
  | badPort, why =>
    ∃ value, sh.vars.get? "PORT" = some value ∧ why = .portInvalid value ∧
      why.message = "Invalid PORT value: " ++ value

/-- An obstacle is there, and none that is looked for before. -/
def IsFirst (sh : Shell) (t : Tree) (config : Option String) (o : Obstacle) : Prop :=
  o.Holds sh t config ∧ ∀ p : Obstacle, p.rank < o.rank → ¬ p.Holds sh t config

end Obstacle

open Obstacle

variable {sh : Shell} {t : Tree} {config : Option String} {text : String} {o : Obstacle}

/-! ## Obstacles in the file -/

theorem not_holds_of_unresolved (h : ∀ place, t.resolve [] (filePath sh config) ≠ .ok place) :
    ¬ unreadableFile.Holds sh t config ∧ ¬ noSettings.Holds sh t config := by
  constructor
  · rintro ⟨place, e, hplace, -⟩
    exact h place hplace
  · rintro ⟨text, hread, -⟩
    obtain ⟨place, e, hplace, -⟩ := Tree.isText_of_readText hread
    exact h place hplace

theorem not_holds_of_text (h : t.readText [] (filePath sh config) = .ok text) :
    ¬ missingFile.Holds sh t config ∧ ¬ unreadableFile.Holds sh t config := by
  obtain ⟨place, e, hplace, he, htext⟩ := Tree.isText_of_readText h
  constructor
  · intro hmissing
    exact hmissing.2 place hplace
  · rintro ⟨place', e', hplace', he', hno⟩
    rw [hplace] at hplace'
    cases hplace'
    rw [he] at he'
    cases he'
    exact hno htext

/-- Of the obstacles in the file at most one is there. -/
theorem isFirst_of_file (ho : o ≠ badPort) (h : o.Holds sh t config) : o.IsFirst sh t config := by
  refine ⟨h, fun p hp hholds => ?_⟩
  cases o with
  | missingFile => exact absurd hp (Nat.not_lt_zero _)
  | unreadableFile =>
    cases p with
    | missingFile => exact (not_holds_of_unresolved hholds.2).1 h
    | _ => exact absurd hp (by decide)
  | noSettings =>
    obtain ⟨text, hread, -⟩ := h
    cases p with
    | missingFile => exact (not_holds_of_text hread).1 hholds
    | unreadableFile => exact (not_holds_of_text hread).2 hholds
    | _ => exact absurd hp (by decide)
  | badPort => exact absurd rfl ho

/-! ## The layer of the file -/

theorem fileLayer_of_unresolved (h : ∀ place, t.resolve [] (filePath sh config) ≠ .ok place) :
    fileLayer sh t config =
      if config.isSome then .error (.settingsNotFound (filePath sh config)) else .ok {} := by
  cases hr : t.resolve [] (filePath sh config) with
  | ok place => exact absurd hr (h place)
  | error why =>
    have hthere : ¬ t.isThere [] (sh.path (config.getD fileName)) = true := by
      rw [show t.isThere [] (sh.path (config.getD fileName)) = false from Tree.isThere_of_error hr]
      decide
    unfold fileLayer
    rw [if_neg hthere]
    rfl

theorem fileLayer_of_resolved {place : Location} (h : t.resolve [] (filePath sh config) = .ok place) :
    fileLayer sh t config = layerOf (filePath sh config) (t.readText [] (filePath sh config)) := by
  have hthere : t.isThere [] (sh.path (config.getD fileName)) = true := Tree.isThere_of_ok h
  unfold fileLayer
  rw [if_pos hthere]
  rfl

theorem fileLayer_of_text (h : t.readText [] (filePath sh config) = .ok text) :
    fileLayer sh t config = layerOf (filePath sh config) (.ok text) := by
  obtain ⟨place, e, hplace, -⟩ := Tree.isText_of_readText h
  rw [fileLayer_of_resolved hplace, h]

/-- A text without settings is refused, as malformed exactly if it is no TOML. -/
theorem ofFile?_eq_error (h : ¬ Layer.IsSettingsText text) :
    ∃ e, Layer.ofFile? text = .error e ∧ (e = .malformed ↔ Toml.read? text = none) := by
  rw [← Layer.ofFile?_succeeds_iff] at h
  unfold Layer.ofFile? at h ⊢
  cases hread : Toml.read? text with
  | none => exact ⟨.malformed, rfl, by simp⟩
  | some entries =>
    rw [hread] at h
    dsimp only at h ⊢
    cases hdoc : Layer.ofDocument? entries with
    | error m => exact ⟨.mismatch m, rfl, by simp⟩
    | ok l =>
      rw [hdoc] at h
      exact absurd ⟨l, rfl⟩ h

/-- Either the file gives a layer, and no obstacle lies in it, or the one that lies in it is reported. -/
theorem fileLayer_cases (sh : Shell) (t : Tree) (config : Option String) :
    (∃ l, fileLayer sh t config = .ok l ∧ ∀ o, o ≠ badPort → ¬ Holds sh t config o) ∨
      ∃ o why, o ≠ badPort ∧ Holds sh t config o ∧ Reports sh t config o why ∧
        fileLayer sh t config = .error why := by
  cases hr : t.resolve [] (filePath sh config) with
  | error refusal =>
    have hno : ∀ place, t.resolve [] (filePath sh config) ≠ .ok place := by
      intro place hplace
      rw [hr] at hplace
      cases hplace
    rw [fileLayer_of_unresolved hno]
    cases config with
    | some path => exact Or.inr ⟨missingFile, _, by decide, ⟨rfl, hno⟩, rfl, rfl⟩
    | none =>
      refine Or.inl ⟨{}, rfl, fun o ho h => ?_⟩
      cases o with
      | missingFile => exact absurd h.1 (by decide)
      | unreadableFile => exact (not_holds_of_unresolved hno).1 h
      | noSettings => exact (not_holds_of_unresolved hno).2 h
      | badPort => exact ho rfl
  | ok place =>
    obtain ⟨e, he, hlink⟩ := Tree.lookup_of_resolve rfl hr
    rw [fileLayer_of_resolved hr]
    by_cases htext : e.IsText
    · obtain ⟨text, hread⟩ := Tree.readText_of_isText hr he htext
      rw [hread]
      by_cases hsettings : Layer.IsSettingsText text
      · obtain ⟨l, hl⟩ := Layer.ofFile?_succeeds_iff.2 hsettings
        refine Or.inl ⟨l, by simp only [layerOf, hl], fun o ho h => ?_⟩
        cases o with
        | missingFile => exact (not_holds_of_text hread).1 h
        | unreadableFile => exact (not_holds_of_text hread).2 h
        | noSettings =>
          obtain ⟨text', hread', hno⟩ := h
          rw [hread] at hread'
          cases hread'
          exact hno hsettings
        | badPort => exact ho rfl
      · obtain ⟨why, hwhy, hmalformed⟩ := ofFile?_eq_error hsettings
        exact Or.inr ⟨noSettings, _, by decide, ⟨text, hread, hsettings⟩, ⟨text, why, hread, rfl, hmalformed⟩,
          by simp only [layerOf, hwhy]⟩
    · obtain ⟨refusal, hread⟩ : ∃ refusal, t.readText [] (filePath sh config) = .error refusal := by
        rcases Tree.readText_of_not_isText hr he hlink htext with ⟨-, hread⟩ | ⟨-, hread⟩
        · exact ⟨_, hread⟩
        · exact ⟨_, hread⟩
      rw [hread]
      exact Or.inr ⟨unreadableFile, _, by decide, ⟨place, e, hr, he, htext⟩, ⟨refusal, hread, rfl⟩, rfl⟩

/-! ## The layer of the variables -/

/-- Either the variable for the port says something that can be used, or it is reported as it stands. -/
theorem portVariable?_cases (sh : Shell) (t : Tree) (config : Option String) :
    (∃ port, Layer.portVariable? sh.vars = .ok port ∧ ¬ badPort.Holds sh t config) ∨
      ∃ why, badPort.Holds sh t config ∧ badPort.Reports sh t config why ∧
        Layer.portVariable? sh.vars = .error why := by
  rw [Layer.portVariable?, Layer.nonempty?]
  cases hvalue : sh.vars.get? "PORT" with
  | none =>
    refine Or.inl ⟨none, rfl, ?_⟩
    rintro ⟨value, hset, -⟩
    rw [hvalue] at hset
    cases hset
  | some value =>
    rw [Option.filter_some]
    by_cases hempty : value = ""
    · refine Or.inl ⟨none, by simp [hempty], ?_⟩
      rintro ⟨value', hset, hne, -⟩
      rw [hvalue] at hset
      cases hset
      exact hne hempty
    · rw [if_pos (decide_eq_true hempty)]
      dsimp only
      cases hport : Text.readPort? (Text.trimChars value.toList) with
      | some port =>
        refine Or.inl ⟨some port, rfl, ?_⟩
        rintro ⟨value', hset, -, hno⟩
        rw [hvalue] at hset
        cases hset
        exact hno port (Text.readPort?_trimChars_eq_some_iff.1 hport)
      | none =>
        refine Or.inr ⟨_, ⟨value, hvalue, hempty, fun port hport' => ?_⟩, ⟨value, hvalue, rfl, rfl⟩, rfl⟩
        rw [Text.readPort?_trimChars_eq_some_iff.2 hport'] at hport
        cases hport

theorem ofVariables?_cases (sh : Shell) (t : Tree) (config : Option String) :
    (∃ l, Layer.ofVariables? sh.vars = .ok l ∧ ¬ badPort.Holds sh t config) ∨
      ∃ why, badPort.Holds sh t config ∧ badPort.Reports sh t config why ∧
        Layer.ofVariables? sh.vars = .error why := by
  rw [Layer.ofVariables?]
  rcases portVariable?_cases sh t config with ⟨port, hport, hno⟩ | ⟨why, hholds, hreports, hport⟩
  · rw [hport]
    exact Or.inl ⟨_, rfl, hno⟩
  · rw [hport]
    exact Or.inr ⟨why, hholds, hreports, rfl⟩

/-! ## All layers -/

/-- Either no obstacle is there and settling succeeds, or the first obstacle is reported,
whatever the flags are. -/
theorem resolve_cases (sh : Shell) (t : Tree) (config : Option String) :
    ((∀ o, ¬ Holds sh t config o) ∧ ∀ flags, ∃ s, (resolve sh t config flags).result = .ok s) ∨
      ∃ o why, IsFirst sh t config o ∧ Reports sh t config o why ∧
        ∀ flags, (resolve sh t config flags).result = .error why := by
  unfold resolve
  rcases fileLayer_cases sh t config with ⟨file, hfile, hclear⟩ | ⟨o, why, ho, hholds, hreports, hfile⟩
  · rcases ofVariables?_cases sh t config with ⟨vars, hvars, hport⟩ | ⟨why, hholds, hreports, hvars⟩
    · refine Or.inl ⟨fun o h => ?_, fun flags => ⟨stack file vars flags, by simp only [hfile, hvars]⟩⟩
      by_cases ho : o = badPort
      · exact hport (ho ▸ h)
      · exact hclear o ho h
    · refine Or.inr ⟨badPort, why, ⟨hholds, fun p hp => hclear p ?_⟩, hreports,
        fun flags => by simp only [hfile, hvars]⟩
      rintro rfl
      exact absurd hp (Nat.lt_irrefl _)
  · exact Or.inr ⟨o, why, isFirst_of_file ho hholds, hreports, fun flags => by simp only [hfile]⟩

theorem exists_resolve_iff (flags : Flags) :
    (∃ s, (resolve sh t config flags).result = .ok s) ↔ ∀ o, ¬ Holds sh t config o := by
  rcases resolve_cases sh t config with ⟨hclear, hok⟩ | ⟨o, why, hfirst, -, hfail⟩
  · exact iff_of_true (hok flags) hclear
  · refine iff_of_false ?_ fun hclear => hclear o hfirst.1
    rintro ⟨s, hs⟩
    rw [hfail flags] at hs
    cases hs

/-- A file without a line settles what a missing one does. -/
theorem fileLayer_of_empty (h : t.readText [] (filePath sh config) = .ok "") :
    fileLayer sh t config = .ok {} := by
  rw [fileLayer_of_text h]
  rfl

/-- Settling fails exactly if an obstacle is there, and then reports the first one, whatever the flags are. A
settings file that is missing counts as an empty one, if it was not asked for. -/
theorem resolve_fails_iff (sh : Shell) (t : Tree) (config : Option String) :
    (∀ flags, (∃ why, (resolve sh t config flags).result = .error why) ↔ ∃ o, Holds sh t config o) ∧
      (∀ flags, (∃ s, (resolve sh t config flags).result = .ok s) ↔ ∀ o, ¬ Holds sh t config o) ∧
      (∀ flags why, (resolve sh t config flags).result = .error why →
        (∃ o, IsFirst sh t config o ∧ Reports sh t config o why) ∧
          ∀ flags', (resolve sh t config flags').result = .error why) ∧
      ∀ t' flags, config = none → (∀ place, t.resolve [] (filePath sh config) ≠ .ok place) →
        t'.readText [] (filePath sh config) = .ok "" →
        (resolve sh t config flags).result = (resolve sh t' config flags).result := by
  refine ⟨?_, ?_, ?_, ?_⟩
  · intro flags
    rcases resolve_cases sh t config with ⟨hclear, hok⟩ | ⟨o, why, hfirst, -, hfail⟩
    · obtain ⟨s, hs⟩ := hok flags
      refine iff_of_false ?_ fun ⟨o, h⟩ => hclear o h
      rintro ⟨why, hwhy⟩
      rw [hs] at hwhy
      cases hwhy
    · exact iff_of_true ⟨why, hfail flags⟩ ⟨o, hfirst.1⟩
  · exact exists_resolve_iff
  · intro flags why hwhy
    rcases resolve_cases sh t config with ⟨-, hok⟩ | ⟨o, why', hfirst, hreports, hfail⟩
    · obtain ⟨s, hs⟩ := hok flags
      rw [hs] at hwhy
      cases hwhy
    · rw [hfail flags] at hwhy
      cases hwhy
      exact ⟨⟨o, hfirst, hreports⟩, hfail⟩
  · intro t' flags hnone hmissing hempty
    subst hnone
    rw [resolve, resolve, fileLayer_of_unresolved hmissing, fileLayer_of_empty hempty]
    rfl

end DocRunner.Settings
