import DocRunner.Proofs.CommandLine.Spelling
import DocRunner.Proofs.Failing
import DocRunner.Proofs.Text.Digits

/-!
# What the items of a command line give

* `Parameter.Content p`, `Parameter.Means p v a` : what the parameter `p` is, and what
  the text `v` means for it;
* `CommandLine.get cl p`, `CommandLine.set cl p a` : what a command line has for a parameter;
* `CommandLine.give_eq_ok_iff` : a parameter is given a value if it has none yet and the
  text means something for it;
* `CommandLine.giveItems cl items` : a command line after items, one by one;
* `CommandLine.Accepted items`, `CommandLine.Says cl items` : no parameter is given twice and all texts mean
  something, and the command line has the targets in order and what the texts mean. These two are what
  `giveItems` comes to (`CommandLine.giveItems_empty_eq_ok_iff`).
-/

namespace DocRunner

/-- What a parameter is: the port is a number, any other parameter a text. -/
abbrev Parameter.Content : Parameter → Type
  | .port => UInt16
  | _ => String

/-- What a text means for a parameter. A path must not be empty, and a port is a decimal integer
with or without a sign. -/
def Parameter.Means : (p : Parameter) → String → p.Content → Prop
  | .directory, v, a => v ≠ "" ∧ a = v
  | .config, v, a => v ≠ "" ∧ a = v
  | .builder, v, a => a = v
  | .opts, v, a => a = v
  | .sourceDir, v, a => v ≠ "" ∧ a = v
  | .buildDir, v, a => v ≠ "" ∧ a = v
  | .port, v, a => Text.IsSigned v.toList (UInt16.toNat a)

namespace CommandLine

/-- What a command line has for a parameter. -/
def get (cl : CommandLine) : (p : Parameter) → Option p.Content
  | .directory => cl.directory
  | .config => cl.config
  | .builder => cl.flags.builder
  | .opts => cl.flags.options
  | .sourceDir => cl.flags.sourceDir
  | .buildDir => cl.flags.buildDir
  | .port => cl.flags.port

/-- A command line that has something else for a parameter. -/
def set (cl : CommandLine) : (p : Parameter) → p.Content → CommandLine
  | .directory, a => { cl with directory := some a }
  | .config, a => { cl with config := some a }
  | .builder, a => { cl with flags.builder := some a }
  | .opts, a => { cl with flags.options := some a }
  | .sourceDir, a => { cl with flags.sourceDir := some a }
  | .buildDir, a => { cl with flags.buildDir := some a }
  | .port, a => { cl with flags.port := some a }

variable {cl cl' : CommandLine} {p q : Parameter} {v : String} {items : List Item}

@[simp] theorem targets_set (cl : CommandLine) (p : Parameter) (a : p.Content) :
    (cl.set p a).targets = cl.targets := by
  cases p <;> rfl

@[simp] theorem get_set_self (cl : CommandLine) (p : Parameter) (a : p.Content) :
    (cl.set p a).get p = some a := by
  cases p <;> rfl

theorem get_set_of_ne (cl : CommandLine) (a : p.Content) (h : q ≠ p) : (cl.set p a).get q = cl.get q := by
  cases p <;> cases q <;> first | rfl | exact absurd rfl h

theorem ext_get (htargets : cl.targets = cl'.targets) (h : ∀ p, cl.get p = cl'.get p) : cl = cl' := by
  obtain ⟨targets, directory, config, builder, options, sourceDir, buildDir, port⟩ := cl
  obtain ⟨targets', directory', config', builder', options', sourceDir', buildDir', port'⟩ := cl'
  simp only [mk.injEq, Flags.mk.injEq]
  exact ⟨htargets, h .directory, h .config, h .builder, h .opts, h .sourceDir, h .buildDir, h .port⟩

/-! ## One value -/

theorem once_eq_ok_iff {α : Type} {old x : Option α} {new : Except UsageError α} :
    once p old new = .ok x ↔ old = none ∧ ∃ a, new = .ok a ∧ x = some a := by
  cases old with
  | some b => simp [once]
  | none =>
    cases new with
    | error why => simp [once, Except.map]
    | ok a => simp [once, Except.map, eq_comm]

theorem pathValue_eq_ok_iff {a : String} : pathValue p v = .ok a ↔ v ≠ "" ∧ a = v := by
  rw [pathValue]
  split <;> simp_all [eq_comm]

theorem portValue_eq_ok_iff {port : UInt16} : portValue v = .ok port ↔ Text.IsSigned v.toList port.toNat := by
  have hport : (port.toNat : Int) < Text.int64Bound := by
    have := port.toNat_lt
    simp only [Text.int64Bound]
    omega
  have hread : portValue v = .ok port ↔ Text.readInt64 v.toList = .ok (port.toNat : Int) := by
    unfold portValue
    cases Text.readInt64 v.toList with
    | error why => simp
    | ok n =>
      dsimp only
      by_cases hn : 0 ≤ n
      · rw [if_pos hn]
        have htoPort := @Text.toPort?_eq_some_iff n.toNat port
        cases hp : Text.toPort? n.toNat with
        | none =>
          rw [hp] at htoPort
          simp only [reduceCtorEq, false_iff, Except.ok.injEq] at htoPort ⊢
          omega
        | some port' =>
          rw [hp, Option.some.injEq] at htoPort
          simp only [Except.ok.injEq, htoPort]
          omega
      · rw [if_neg hn]
        simp only [reduceCtorEq, false_iff, Except.ok.injEq]
        omega
  rw [hread, Text.readInt64_eq_ok_iff]
  constructor
  · exact And.left
  · intro h
    exact ⟨h, by simp only [Text.int64Bound]; omega, hport⟩

end CommandLine

open CommandLine in
/-- A text means one thing at most. -/
theorem Parameter.Means.unique {p : Parameter} {v : String} {a b : p.Content} (ha : p.Means v a)
    (hb : p.Means v b) : a = b := by
  cases p with
  | port =>
    have h := portValue_eq_ok_iff.2 ha
    rw [portValue_eq_ok_iff.2 hb] at h
    exact (Except.ok.inj h).symm
  | builder => exact ha.trans hb.symm
  | opts => exact ha.trans hb.symm
  | _ => exact ha.2.trans hb.2.symm

namespace CommandLine

variable {cl cl' : CommandLine} {p q : Parameter} {v : String} {items : List Item}

theorem map_once_eq_ok_iff {α : Type} {old : Option α} {new : Except UsageError α} {f : Option α → CommandLine} :
    (once p old new).map f = .ok cl' ↔ old = none ∧ ∃ a, new = .ok a ∧ cl' = f (some a) := by
  constructor
  · intro h
    obtain ⟨x, hx, rfl⟩ := map_eq_ok h
    obtain ⟨hold, a, ha, rfl⟩ := once_eq_ok_iff.1 hx
    exact ⟨hold, a, ha, rfl⟩
  · rintro ⟨hold, a, ha, rfl⟩
    rw [once_eq_ok_iff.2 ⟨hold, a, ha, rfl⟩]
    rfl

/-- A parameter is given a value if it has none yet, and if the text means something for it. -/
theorem give_eq_ok_iff : cl.give p v = .ok cl' ↔ cl.get p = none ∧ ∃ a, p.Means v a ∧ cl' = cl.set p a := by
  cases p with
  | port =>
    rw [give, map_once_eq_ok_iff]
    simp only [portValue_eq_ok_iff]
    rfl
  | builder =>
    rw [give, map_once_eq_ok_iff]
    simp only [Except.ok.injEq, eq_comm (a := v)]
    rfl
  | opts =>
    rw [give, map_once_eq_ok_iff]
    simp only [Except.ok.injEq, eq_comm (a := v)]
    rfl
  | _ =>
    rw [give, map_once_eq_ok_iff]
    simp only [pathValue_eq_ok_iff]
    rfl

/-! ## Items -/

/-- The target that an item is. -/
def Item.target? : Item → Option Target
  | .target t => some t
  | .option _ _ => none

/-- The parameter that an item gives a value. -/
def Item.parameter? : Item → Option Parameter
  | .target _ => none
  | .option p _ => some p

/-- A command line after one more item. -/
def giveItem (cl : CommandLine) : Item → Except UsageError CommandLine
  | .target t => .ok { cl with targets := cl.targets ++ [t] }
  | .option p v => cl.give p v

/-- A command line after items, one by one. -/
def giveItems (cl : CommandLine) : List Item → Except UsageError CommandLine
  | [] => .ok cl
  | item :: items => (cl.giveItem item).bind fun cl => cl.giveItems items

/-- No parameter is given twice, and all texts mean something. -/
structure Accepted (items : List Item) : Prop where
  once : (items.filterMap Item.parameter?).Nodup
  means : ∀ p v, .option p v ∈ items → ∃ a, p.Means v a

/-- A command line has the targets in order, and for each parameter what the text for it means. -/
structure Says (cl : CommandLine) (items : List Item) : Prop where
  targets : cl.targets = items.filterMap Item.target?
  get : ∀ p a, cl.get p = some a ↔ ∃ v, .option p v ∈ items ∧ p.Means v a

theorem giveItems_append (cl : CommandLine) (xs ys : List Item) :
    cl.giveItems (xs ++ ys) = (cl.giveItems xs).bind fun cl => cl.giveItems ys := by
  induction xs generalizing cl with
  | nil => rfl
  | cons x xs ih =>
    rw [List.cons_append, giveItems, giveItems]
    cases cl.giveItem x with
    | error why => rfl
    | ok cl => exact ih cl

theorem mem_parameters_iff : p ∈ items.filterMap Item.parameter? ↔ ∃ v, .option p v ∈ items := by
  rw [List.mem_filterMap]
  constructor
  · rintro ⟨item, hitem, hp⟩
    cases item with
    | target t => cases hp
    | option q v =>
      cases hp
      exact ⟨v, hitem⟩
  · rintro ⟨v, hv⟩
    exact ⟨_, hv, rfl⟩

theorem giveItems_option_eq_ok_iff :
    giveItems cl (.option p v :: items) = .ok cl' ↔
      cl.get p = none ∧ ∃ a, p.Means v a ∧ giveItems (cl.set p a) items = .ok cl' := by
  rw [giveItems, giveItem]
  constructor
  · intro h
    obtain ⟨cl₁, h₁, h₂⟩ := bind_eq_ok h
    obtain ⟨hnone, a, ha, rfl⟩ := give_eq_ok_iff.1 h₁
    exact ⟨hnone, a, ha, h₂⟩
  · rintro ⟨hnone, a, ha, h₂⟩
    rw [give_eq_ok_iff.2 ⟨hnone, a, ha, rfl⟩]
    exact h₂

/-- What is set first, and what items give that leave it alone, is what all items together give. -/
theorem get_set_or_iff {a : p.Content} {b : q.Content} (hnone : cl.get p = none) (ha : p.Means v a)
    (hfresh : ∀ w, .option p w ∉ items) :
    ((cl.set p a).get q = some b ∨ ∃ w, .option q w ∈ items ∧ q.Means w b) ↔
      cl.get q = some b ∨ ∃ w, .option q w ∈ (.option p v :: items : List Item) ∧ q.Means w b := by
  by_cases hq : q = p
  · subst hq
    rw [get_set_self, hnone]
    constructor
    · rintro (hab | ⟨w, hw, -⟩)
      · cases hab
        exact Or.inr ⟨v, List.mem_cons_self, ha⟩
      · exact absurd hw (hfresh w)
    · rintro (habsurd | ⟨w, hw, hb⟩)
      · cases habsurd
      · rcases List.mem_cons.1 hw with heq | hw
        · cases heq
          exact Or.inl (congrArg some (ha.unique hb))
        · exact absurd hw (hfresh w)
  · have hcons : ∀ w, .option q w ∈ (.option p v :: items : List Item) ↔ .option q w ∈ items := by
      intro w
      rw [List.mem_cons, Item.option.injEq]
      exact or_iff_right fun h => hq h.1
    simp only [get_set_of_ne cl a hq, hcons]

/-- Items are taken if no parameter is given twice or has a value already, and if all texts mean something. Then
targets are added in order, and each parameter has what it had or what the text for it means. -/
theorem giveItems_eq_ok_iff :
    cl.giveItems items = .ok cl' ↔
      ((items.filterMap Item.parameter?).Nodup ∧
        ∀ p v, .option p v ∈ items → cl.get p = none ∧ ∃ a, p.Means v a) ∧
      cl'.targets = cl.targets ++ items.filterMap Item.target? ∧
      ∀ p a, cl'.get p = some a ↔ cl.get p = some a ∨ ∃ v, .option p v ∈ items ∧ p.Means v a := by
  induction items generalizing cl with
  | nil =>
    simp only [giveItems, Except.ok.injEq, List.filterMap_nil, List.nodup_nil, List.not_mem_nil, false_implies,
      implies_true, and_self, List.append_nil, false_and, exists_false, or_false, true_and]
    constructor
    · rintro rfl
      exact ⟨rfl, fun _ _ => Iff.rfl⟩
    · rintro ⟨htargets, hget⟩
      exact (ext_get htargets fun p => Option.ext (hget p)).symm
  | cons item items ih =>
    cases item with
    | target t =>
      rw [giveItems, giveItem]
      refine (@ih { cl with targets := cl.targets ++ [t] }).trans ?_
      have hget : ∀ p, CommandLine.get { cl with targets := cl.targets ++ [t] } p = cl.get p := by
        intro p
        cases p <;> rfl
      simp only [hget, List.filterMap_cons, Item.parameter?, Item.target?, List.mem_cons, reduceCtorEq, false_or,
        List.append_assoc, List.singleton_append]
    | option p v =>
      rw [giveItems_option_eq_ok_iff]
      simp only [ih, targets_set, List.filterMap_cons, Item.parameter?, Item.target?, List.nodup_cons,
        mem_parameters_iff, not_exists]
      constructor
      · rintro ⟨hnone, a, ha, ⟨honce, hgiven⟩, htargets, hget⟩
        have hfresh : ∀ w, .option p w ∉ items := by
          intro w hw
          have := (hgiven p w hw).1
          rw [get_set_self] at this
          cases this
        refine ⟨⟨⟨hfresh, honce⟩, ?_⟩, htargets,
          fun q b => (hget q b).trans (get_set_or_iff hnone ha hfresh)⟩
        intro q w hw
        rcases List.mem_cons.1 hw with heq | hw
        · cases heq
          exact ⟨hnone, a, ha⟩
        · have hne : q ≠ p := fun heq => hfresh w (heq ▸ hw)
          rw [← get_set_of_ne cl a hne]
          exact hgiven q w hw
      · rintro ⟨⟨⟨hfresh, honce⟩, hgiven⟩, htargets, hget⟩
        obtain ⟨hnone, a, ha⟩ := hgiven p v List.mem_cons_self
        refine ⟨hnone, a, ha, ⟨honce, ?_⟩, htargets,
          fun q b => (hget q b).trans (get_set_or_iff hnone ha hfresh).symm⟩
        intro q w hw
        have hne : q ≠ p := fun heq => hfresh w (heq ▸ hw)
        rw [get_set_of_ne cl a hne]
        exact hgiven q w (List.mem_cons_of_mem _ hw)

/-- Items are taken if no parameter is given twice or has a value already, and if all texts mean something. -/
theorem exists_giveItems (honce : (items.filterMap Item.parameter?).Nodup)
    (hgiven : ∀ p v, .option p v ∈ items → cl.get p = none ∧ ∃ a, p.Means v a) :
    ∃ cl', cl.giveItems items = .ok cl' := by
  induction items generalizing cl with
  | nil => exact ⟨cl, rfl⟩
  | cons item items ih =>
    cases item with
    | target t =>
      refine @ih { cl with targets := cl.targets ++ [t] } honce fun p v hv => ?_
      have hget : CommandLine.get { cl with targets := cl.targets ++ [t] } p = cl.get p := by
        cases p <;> rfl
      rw [hget]
      exact hgiven p v (List.mem_cons_of_mem _ hv)
    | option p v =>
      obtain ⟨hfresh, honce⟩ := List.nodup_cons.1 honce
      obtain ⟨hnone, a, ha⟩ := hgiven p v List.mem_cons_self
      obtain ⟨cl', hcl'⟩ := @ih (cl.set p a) honce fun q w hw => by
        have hne : q ≠ p := fun heq => hfresh (mem_parameters_iff.2 ⟨w, heq ▸ hw⟩)
        rw [get_set_of_ne cl a hne]
        exact hgiven q w (List.mem_cons_of_mem _ hw)
      exact ⟨cl', giveItems_option_eq_ok_iff.2 ⟨hnone, a, ha, hcl'⟩⟩

theorem get_empty (p : Parameter) : CommandLine.get {} p = none := by
  cases p <;> rfl

theorem giveItems_empty_eq_ok_iff : giveItems {} items = .ok cl ↔ Accepted items ∧ Says cl items := by
  rw [giveItems_eq_ok_iff]
  simp only [get_empty, true_and, reduceCtorEq, false_or, List.nil_append]
  constructor
  · rintro ⟨⟨honce, hmeans⟩, htargets, hget⟩
    exact ⟨⟨honce, hmeans⟩, ⟨htargets, hget⟩⟩
  · rintro ⟨⟨honce, hmeans⟩, ⟨htargets, hget⟩⟩
    exact ⟨⟨honce, hmeans⟩, htargets, hget⟩

theorem Accepted.exists_commandLine (h : Accepted items) : ∃ cl, Says cl items := by
  obtain ⟨cl, hcl⟩ := @exists_giveItems {} items h.once fun p v hv => ⟨get_empty p, h.means p v hv⟩
  exact ⟨cl, (giveItems_empty_eq_ok_iff.1 hcl).2⟩

end CommandLine

end DocRunner
