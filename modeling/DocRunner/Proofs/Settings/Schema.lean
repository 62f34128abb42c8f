import DocRunner.Proofs.Settings.Misfit
import DocRunner.Proofs.Settings.Obstacles
import DocRunner.Proofs.Toml.Keys

/-!
# The schema of the settings file

* `Document.given_nodup` : a document in which no key stands twice names no setting twice;
* `Document.content?_of_mem`, `Document.content?_of_notMem` : it says about a setting what stands there, and
  nothing about one that it does not name;
* `Document.schema_decides` : a document is taken exactly if it fits, and then gives each setting as it is
  named. A document that does not fit is refused for what is wrong with it first, and no setting of it counts.
-/

namespace DocRunner

open Toml (Value)

variable {x : Setting} {sec : Section} {v w : Value} {entries : List (String × Value)} {e : String × Value}

/-! ## The settings that are named -/

/-- No setting belongs to two sections. -/
theorem Section.settings_disjoint :
    ∀ sec ∈ Section.all, ∀ sec' ∈ Section.all, ∀ x ∈ sec.settings, x ∈ sec'.settings →
      sec = sec' := by decide

theorem Section.mem_given_table {es : List (String × Value)} (h : (x, v) ∈ sec.given (.table es)) :
    ∃ e ∈ es, sec.settings.find? (·.key = e.1) = some x ∧ v = e.2 := by
  obtain ⟨e, he, hmap⟩ := List.mem_filterMap.1 h
  obtain ⟨y, hy, heq⟩ := Option.map_eq_some_iff.1 hmap
  cases heq
  exact ⟨e, he, hy, rfl⟩

theorem Section.mem_settings_of_given (h : (x, v) ∈ sec.given w) : x ∈ sec.settings := by
  cases w with
  | table es =>
    obtain ⟨e, -, hfind, -⟩ := Section.mem_given_table h
    exact List.mem_of_find?_eq_some hfind
  | array elements => exact (List.of_mem_zip h).1
  | _ => cases h

theorem Section.Fits.accepts (hfits : sec.Fits w) (h : (x, v) ∈ sec.given w) : x.Accepts v := by
  cases w with
  | table es =>
    obtain ⟨e, he, hfind, rfl⟩ := Section.mem_given_table h
    obtain ⟨y, hy, haccepts⟩ := (exists_key_iff sec.settings_key_inj).1 (hfits e he)
    rw [hfind] at hy
    cases hy
    exact haccepts
  | array elements => exact hfits (x, v) h
  | _ => cases h

theorem map_fst_zip_sublist {α β : Type} (xs : List α) (ys : List β) : ((xs.zip ys).map Prod.fst).Sublist xs := by
  induction xs generalizing ys with
  | nil => exact List.Sublist.refl []
  | cons x xs ih =>
    cases ys with
    | nil => exact List.nil_sublist _
    | cons y ys => exact (ih ys).cons_cons x

theorem Section.given_nodup (h : w.Keyed) : ((sec.given w).map Prod.fst).Nodup := by
  cases h with
  | @table es differ _ =>
    have hnames : (sec.given (.table es)).map Prod.fst =
        (es.map Prod.fst).filterMap fun key => sec.settings.find? (·.key = key) := by
      rw [Section.given, List.map_filterMap, List.filterMap_map]
      apply List.filterMap_congr
      intro e _
      rw [Option.map_map]
      exact Option.map_id'
    rw [hnames]
    refine differ.filterMap fun key key' x hx hx' => ?_
    have hkey : x.key = key := by simpa using List.find?_some hx
    have hkey' : x.key = key' := by simpa using List.find?_some hx'
    rw [← hkey, ← hkey']
  | array => exact sec.settings_nodup.sublist (map_fst_zip_sublist _ _)
  | _ => exact List.nodup_nil

namespace Document

theorem mem_given_entry : (x, v) ∈ ((Section.all.find? (·.key = e.1)).map fun sec => sec.given e.2).getD [] ↔
    ∃ sec, Section.all.find? (·.key = e.1) = some sec ∧ (x, v) ∈ sec.given e.2 := by
  cases Section.all.find? (·.key = e.1) with
  | none => simp
  | some sec => simp

theorem mem_given : (x, v) ∈ given entries ↔
    ∃ e ∈ entries, ∃ sec, Section.all.find? (·.key = e.1) = some sec ∧ (x, v) ∈ sec.given e.2 := by
  simp only [given, List.mem_flatMap, mem_given_entry]

/-- A document in which no key stands twice names no setting twice. -/
theorem given_nodup (h : (Value.table entries).Keyed) : ((given entries).map Prod.fst).Nodup := by
  cases h with
  | table differ each =>
    rw [given, List.map_flatMap, List.nodup_flatMap]
    constructor
    · intro e he
      cases Section.all.find? (·.key = e.1) with
      | none => exact List.nodup_nil
      | some sec => exact Section.given_nodup (each e he)
    · -- entries with different keys belong to different sections, which share no setting
      have hapart : entries.Pairwise fun e e' => e.1 ≠ e'.1 := List.pairwise_map.1 differ
      refine hapart.imp fun {e e'} hne => ?_
      rw [Function.onFun, List.disjoint_left]
      intro x hx hx'
      obtain ⟨p, hp, rfl⟩ := List.mem_map.1 hx
      obtain ⟨p', hp', hsame⟩ := List.mem_map.1 hx'
      obtain ⟨sec, hsec, hgiven⟩ := mem_given_entry.1 hp
      obtain ⟨sec', hsec', hgiven'⟩ := mem_given_entry.1 hp'
      have hmem : p.1 ∈ sec.settings := Section.mem_settings_of_given hgiven
      have hmem' : p.1 ∈ sec'.settings := hsame ▸ Section.mem_settings_of_given hgiven'
      have heq : sec = sec' := Section.settings_disjoint sec (List.mem_of_find?_eq_some hsec) sec'
        (List.mem_of_find?_eq_some hsec') p.1 hmem hmem'
      have hkey : sec.key = e.1 := by simpa using List.find?_some hsec
      have hkey' : sec'.key = e'.1 := by simpa using List.find?_some hsec'
      exact hne (by rw [← hkey, ← hkey', heq])

theorem Fits.accepts (hfits : Fits entries) (h : (x, v) ∈ given entries) : x.Accepts v := by
  obtain ⟨e, he, sec, hfind, hgiven⟩ := mem_given.1 h
  obtain ⟨sec', hsec', hfits⟩ := (exists_key_iff Section.all_key_inj).1 (hfits e he)
  rw [hfind] at hsec'
  cases hsec'
  exact hfits.accepts hgiven

/-- In a document in which no key stands twice, what is said about a setting is what stands there. -/
theorem content?_of_mem (hkeys : (Value.table entries).Keyed) (h : (x, v) ∈ given entries) :
    content? entries x = x.content? v := by
  have hlookup : (given entries).reverse.lookup x = some v := by
    obtain ⟨before, after, hsplit⟩ := List.append_of_mem h
    have hnodup := given_nodup hkeys
    rw [List.lookup_eq_some_iff]
    refine ⟨after.reverse, before.reverse, by simp [hsplit], fun p hp => ?_⟩
    rw [bne_iff_ne]
    intro hx
    rw [hsplit, List.map_append, List.map_cons] at hnodup
    have hafter : x ∉ after.map Prod.fst := (List.nodup_cons.1 (List.nodup_append.1 hnodup).2.1).1
    exact hafter (hx ▸ List.mem_map_of_mem (List.mem_reverse.1 hp))
  rw [content?, hlookup]
  rfl

theorem content?_of_notMem (h : ∀ v, (x, v) ∉ given entries) : content? entries x = none := by
  have hlookup : (given entries).reverse.lookup x = none := by
    rw [List.lookup_eq_none_iff]
    intro p hp
    rw [bne_iff_ne]
    rintro rfl
    exact h p.2 (List.mem_reverse.1 hp)
  rw [content?, hlookup]
  rfl

end Document

/-! ## Settings files -/

variable {text : String}

theorem Layer.ofFile?_eq_of_read (h : Toml.read? text = some entries) :
    ofFile? text = match ofDocument? entries with
      | .ok l => .ok l
      | .error m => .error (.mismatch m) := by
  cases hd : ofDocument? entries with
  | ok l => simp only [ofFile?, h, hd]
  | error m => simp only [ofFile?, h, hd]

/-- A document is taken exactly if it fits. Then each setting is what the document has for it, or not given if
it has none. A document that does not fit is refused for its first fault, depth first, and so is the run that it
is for, which gets no settings at all. -/
theorem Document.schema_decides (hread : Toml.read? text = some entries) :
    ((∃ l, Layer.ofFile? text = .ok l) ↔ Document.Fits entries) ∧
      (∀ l, Layer.ofFile? text = .ok l → ∀ x,
        (∀ v, (x, v) ∈ Document.given entries → ∃ a, x.content? v = some a ∧ l.get x = some a) ∧
          ((∀ v, (x, v) ∉ Document.given entries) → l.get x = none)) ∧
      (∀ why, Layer.ofFile? text = .error why ↔ ∃ m, Document.Misfits entries m ∧ why = .mismatch m) ∧
      ∀ m, Document.Misfits entries m → ∀ sh t config flags,
        t.readText [] (Settings.filePath sh config) = .ok text →
          (Settings.resolve sh t config flags).result =
            .error (.settingsInvalid (Settings.filePath sh config) (.mismatch m)) := by
  have hkeys : (Value.table entries).Keyed := Toml.read?_keyed hread
  have hfits : (∃ l, Layer.ofFile? text = .ok l) ↔ Document.Fits entries := by
    rw [Layer.ofFile?_succeeds_iff, Layer.IsSettingsText, hread]
    simp
  have hfails : ∀ why, Layer.ofFile? text = .error why ↔
      ∃ m, Document.Misfits entries m ∧ why = .mismatch m := by
    intro why
    simp only [Layer.ofFile?_eq_of_read hread, ← Layer.ofDocument?_eq_error_iff]
    cases Layer.ofDocument? entries with
    | ok l => simp
    | error m => simp [eq_comm]
  refine ⟨hfits, fun l hl x => ?_, hfails, fun m hm sh t config flags htext => ?_⟩
  · obtain ⟨entries', hread', hget⟩ := Layer.ofFile?_get hl
    rw [hread] at hread'
    cases hread'
    constructor
    · intro v hv
      obtain ⟨a, ha⟩ := (hfits.1 ⟨l, hl⟩).accepts hv
      exact ⟨a, ha, by rw [hget x, Document.content?_of_mem hkeys hv, ha]⟩
    · intro hnone
      rw [hget x, Document.content?_of_notMem hnone]
  · have hfile : Layer.ofFile? text = .error (.mismatch m) := (hfails _).2 ⟨m, hm, rfl⟩
    rw [Settings.resolve, Settings.fileLayer_of_text htext, Settings.layerOf, hfile]

/-! ## A sample -/

/-- The text of a settings file. Its preview section is an array with a further element, and what is wrong with
it stands in the other one. -/
def faultyText : String := "live = [\"watch\", 8000, 1]\n[build]\noptions = \"-q\"\nport = 1\nbuilder = 2\n"

/-- What is refused is the key that the section does not have, since it comes first. -/
theorem Document.schema_decides_sample :
    Layer.ofFile? faultyText = .error (.mismatch (.unknownField "port"
      ["builder", "options", "strict-options", "source-dir", "build-dir"])) := by
  have hread : Toml.read? faultyText =
      some [("live", .array [.string "watch", .integer 8000, .integer 1]),
        ("build", .table [("options", .string "-q"), ("port", .integer 1), ("builder", .integer 2)])] := by cbv
  obtain ⟨-, -, hfails, -⟩ := schema_decides hread
  refine (hfails _).2 ⟨_, ?_, rfl⟩
  have hlive : Section.live.Fits (.array [.string "watch", .integer 8000, .integer 1]) := by
    show ∀ p ∈ [(Setting.liveServer, Value.string "watch"), (Setting.port, Value.integer 8000)], p.1.Accepts p.2
    refine List.forall_mem_cons.2 ⟨⟨"watch", rfl⟩, List.forall_mem_singleton.2 ⟨8000, by decide⟩⟩
  have hoptions : ∃ x ∈ Section.build.settings, x.key = "options" ∧ x.Accepts (.string "-q") :=
    ⟨.options, by decide, rfl, "-q", rfl⟩
  refine ⟨[_], _, [], rfl, List.forall_mem_singleton.2 ⟨.live, by decide, rfl, hlive⟩, ?_⟩
  refine @EntryFault.misfit .build _ _ (by decide)
    (.table ⟨[_], _, [_], rfl, List.forall_mem_singleton.2 hoptions, ?_⟩)
  exact .unknown (by decide)

end DocRunner
