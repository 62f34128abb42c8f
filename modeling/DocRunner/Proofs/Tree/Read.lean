import DocRunner.Proofs.Tree.Walk
import DocRunner.Tree.Access

/-!
# What reading a file finds

* `Tree.lookup_of_resolve` : a path that leads somewhere leads to an entry that is no link;
* `Entry.IsText e` : `e` can be read as a text;
* `Tree.readText_of_isText`, `Tree.readText_of_not_isText` : reading a file gives a text exactly at such an
  entry, and is refused elsewhere because of a directory or because of bytes that are no UTF-8;
* `Tree.isText_of_readText` : what has given a text is such an entry.
-/

namespace DocRunner

/-- What can be read as a text: a file of UTF-8 bytes, and a tool. -/
def Entry.IsText : Entry → Prop
  | .file bytes => bytes.IsValidUTF8
  | .tool _ => True
  | _ => False

namespace Tree

variable {t : Tree} {start here place : Location} {names : List String} {path : String}

/-! ## Where a walk ends -/

theorem lookup_of_advance_arrived {e : Entry} (hh : t.lookup here = some e) (he : ∀ target, e ≠ .link target)
    (h : t.advance here names = .arrived place) :
    ∃ e, t.lookup place = some e ∧ ∀ target, e ≠ .link target := by
  induction names generalizing here e with
  | nil =>
    rw [advance_nil] at h
    cases h
    exact ⟨e, hh, he⟩
  | cons name names ih =>
    rcases advance_cases t here name with hd | ⟨hd, rfl | rfl | ⟨h₁, h₂, h₃ | h₃⟩⟩
    · rw [advance_of_not_directory hd] at h
      cases h
    · rw [advance_dot hd] at h
      exact ih hh he h
    · rw [advance_dotdot hd] at h
      exact ih (lookup_tail hd) (fun _ => Entry.noConfusion) h
    · rw [advance_long hd h₁ h₂ h₃] at h
      cases h
    · rw [advance_name hd h₁ h₂ h₃] at h
      split at h
      · cases h
      · cases h
      · rename_i hlink hl
        exact ih hl hlink h

theorem lookup_origin_directory (path : String) (hh : t.lookup here = some .directory) :
    t.lookup (origin path here) = some .directory := by
  rw [origin]
  split
  · rfl
  · exact hh

theorem lookup_of_follow {budget : Nat} (hh : t.lookup here = some .directory)
    (h : t.follow budget here names = .ok place) :
    ∃ e, t.lookup place = some e ∧ ∀ target, e ≠ .link target := by
  fun_induction Tree.follow t budget here names with
  | case1 budget here names there hx =>
    cases h
    exact lookup_of_advance_arrived hh (fun _ => Entry.noConfusion) hx
  | case2 => cases h
  | case3 => cases h
  | case4 here names target base rest hx budget ih =>
    -- a link is met in a directory, and the walk goes on from there or from the root
    exact ih (lookup_origin_directory target (lookup_of_advance_linked hx)) h

/-- A path that leads somewhere leads to an entry, and not to a link. -/
theorem lookup_of_resolve (hs : t.lookup start = some .directory) (h : t.resolve start path = .ok place) :
    ∃ e, t.lookup place = some e ∧ ∀ target, e ≠ .link target := by
  unfold Tree.resolve at h
  cases hc : checkPath path with
  | error why =>
    rw [hc] at h
    cases h
  | ok _ =>
    rw [hc] at h
    exact lookup_of_follow (lookup_origin_directory path hs) h

/-! ## Reading -/

theorem readText_of_isText {e : Entry} (hr : t.resolve start path = .ok place) (he : t.lookup place = some e)
    (htext : e.IsText) : ∃ text, t.readText start path = .ok text := by
  rw [readText, hr]
  dsimp only
  rw [he]
  cases e with
  | file bytes =>
    have hsome : String.fromUTF8? bytes = some (String.fromUTF8 bytes htext) := dif_pos htext
    dsimp only
    rw [hsome]
    exact ⟨_, rfl⟩
  | tool program => exact ⟨_, rfl⟩
  | directory => exact htext.elim
  | link target => exact htext.elim

/-- A file that holds the bytes of a text is read as that text. -/
theorem readText_of_toUTF8 {text : String} (hr : t.resolve start path = .ok place)
    (he : t.lookup place = some (.file text.toUTF8)) : t.readText start path = .ok text := by
  have hsome : String.fromUTF8? text.toUTF8 = some text := dif_pos text.isValidUTF8
  rw [readText, hr]
  dsimp only
  rw [he]
  dsimp only
  rw [hsome]

theorem readText_of_not_isText {e : Entry} (hr : t.resolve start path = .ok place) (he : t.lookup place = some e)
    (hlink : ∀ target, e ≠ .link target) (htext : ¬ e.IsText) :
    e = .directory ∧ t.readText start path = .error .isDirectory ∨
      (∃ bytes, e = .file bytes) ∧ t.readText start path = .error .notUtf8 := by
  rw [readText, hr]
  dsimp only
  rw [he]
  cases e with
  | file bytes =>
    have hnone : String.fromUTF8? bytes = none := dif_neg htext
    dsimp only
    rw [hnone]
    exact Or.inr ⟨⟨bytes, rfl⟩, rfl⟩
  | tool program => exact absurd trivial htext
  | directory => exact Or.inl ⟨rfl, rfl⟩
  | link target => exact absurd rfl (hlink target)

theorem isText_of_readText {text : String} (h : t.readText start path = .ok text) :
    ∃ place e, t.resolve start path = .ok place ∧ t.lookup place = some e ∧ e.IsText := by
  rw [readText] at h
  cases hr : t.resolve start path with
  | error why =>
    rw [hr] at h
    cases h
  | ok place =>
    rw [hr] at h
    dsimp only at h
    split at h
    · rename_i bytes he
      by_cases hvalid : bytes.IsValidUTF8
      · exact ⟨place, _, rfl, he, hvalid⟩
      · have hnone : String.fromUTF8? bytes = none := dif_neg hvalid
        rw [hnone] at h
        cases h
    · rename_i program he
      exact ⟨place, _, rfl, he, trivial⟩
    · cases h
    · cases h

end Tree

end DocRunner
