import DocRunner.Proofs.Tree.Grow
import DocRunner.Proofs.Tree.Read
import DocRunner.Proofs.Tree.Removal

/-!
# What a path passes on its way

* `Tree.OnWay t path q` : the path comes to the entry at `q`, which may be where it leads;
* `Tree.Shrinks.onWay`, `Tree.Grows.onWay` : as long as a path leads to its directory, it passes nothing
  that it did not pass before;
* `Tree.Evolves path t t'` : entries go, and others come only while the path leads to a directory;
* `Tree.Evolves.leads_or_gone` : if all that a path passes before its directory is still there in the end, the
  path leads to its directory all the time until that directory itself has gone.
-/

namespace DocRunner

namespace Tree

variable {t t' w : Tree} {here place p q : Location} {names : List String} {path : String}

/-- A path comes to an entry. -/
def OnWay (t : Tree) (path : String) (q : Location) : Prop :=
  t.Meets linkLimit [] (Path.components path) q ∧ t.lookup q ≠ none

/-! ## The way in a shrunk tree -/

theorem Shrinks.meets (h : Shrinks t t') {budget : Nat} (hh : t'.lookup here = t.lookup here)
    (hq : t'.Meets budget here names q) : t.Meets budget here names q := by
  induction hq with
  | step name ys hx =>
    rcases h.advance hh _ with hsame | ⟨hlost, -⟩
    · exact Meets.step name ys (hsame ▸ hx)
    · rw [hlost] at hx
      cases hx
  | @link budget here base names rest target q hx hq ih =>
    rcases h.advance hh names with hsame | ⟨hlost, -⟩
    · have hbase : t'.lookup base = t.lookup base := by
        rw [lookup_of_advance_linked hx, lookup_of_advance_linked (hsame ▸ hx)]
      exact Meets.link (hsame ▸ hx) (ih (lookup_origin target hbase))
    · rw [hlost] at hx
      cases hx

/-- A path passes nothing new when entries go. -/
theorem Shrinks.onWay (h : Shrinks t t') (hq : t'.OnWay path q) : t.OnWay path q :=
  ⟨h.meets rfl hq.1, fun hnone => hq.2 (h.lookup_eq_none hnone)⟩

/-- When entries go, a path leads to its directory as before, or one that it has passed has gone. -/
theorem Shrinks.leads_or_lost (h : Shrinks t t') (hp : t.resolveDirectory [] path = .ok p) :
    t'.resolveDirectory [] path = .ok p ∨
      t'.resolve [] path = .error .notFound ∧ ∃ q, t.OnWay path q ∧ t'.lookup q = none := by
  obtain ⟨hresolve, hdir⟩ := resolveDirectory_eq_ok.1 hp
  have hroot : t'.lookup [] = t.lookup [] := rfl
  have hcheck : ∀ u : Tree, u.resolve [] path = u.follow linkLimit [] (Path.components path) := fun u => by
    rw [Tree.resolve, checkPath_of_resolve hresolve, origin_root]
  rw [hcheck t] at hresolve
  rcases h.follow hroot linkLimit (Path.components path) with hsame | ⟨hlost, q, e, hmeets, he, hgone⟩
  · have hresolve' : t'.resolve [] path = .ok p := by rw [hcheck, hsame, hresolve]
    obtain ⟨e, he, -⟩ := lookup_of_resolve rfl hresolve'
    rw [h _ _ he] at hdir
    exact Or.inl (resolveDirectory_eq_ok.2 ⟨hresolve', he.trans hdir⟩)
  · exact Or.inr ⟨by rw [hcheck, hlost], q, ⟨hmeets, by simp [he]⟩, hgone⟩

/-! ## The way in a grown tree -/

/-- A walk that goes on behind some names comes to a directory along them, and to an entry of the next name. -/
theorem exists_step (name : String) (ys : List String) {budget : Nat}
    (hf : t.follow budget here (names ++ name :: ys) = .ok place)
    (hlinked : ∀ target base rest, t.advance here names ≠ .linked target base rest) :
    ∃ base, t.advance here names = .arrived base ∧ t.lookup base = some .directory ∧
      (Path.isName name = true → t.lookup (name :: base) ≠ none) := by
  cases hx : t.advance here names with
  | refused why =>
    rw [follow_of_refused (by rw [advance_append, hx])] at hf
    cases hf
  | linked target base rest => exact absurd hx (hlinked target base rest)
  | arrived base =>
    rw [follow_append_of_arrived hx] at hf
    rcases advance_cases t base name with hd | ⟨hd, hname⟩
    · rw [follow_of_refused (advance_of_not_directory hd)] at hf
      cases hf
    · refine ⟨base, rfl, hd, fun hisName hnone => ?_⟩
      obtain ⟨-, h₁, h₂⟩ := Path.ne_of_isName hisName
      by_cases h₃ : nameLimit < name.utf8ByteSize
      · rw [follow_of_refused (advance_long hd h₁ h₂ h₃)] at hf
        cases hf
      · have hrefused : t.advance base (name :: ys) = .refused .notFound := by
          rw [advance_name hd h₁ h₂ h₃, hnone]
        rw [follow_of_refused hrefused] at hf
        cases hf

theorem Grows.meets (h : Grows t t') {budget : Nat} (hf : t.follow budget here names = .ok place)
    (hdir : t.lookup place = some .directory) (hq : t'.Meets budget here names q) (hstands : t'.lookup q ≠ none) :
    t.Meets budget here names q ∧ t.lookup q ≠ none := by
  induction hq with
  | @step budget here base xs name ys hx =>
    have hlinked : ∀ target base rest, t.advance here xs ≠ .linked target base rest := by
      intro target base' rest hlink
      have hends : t.EndsInDirectory (t.advance here xs) := by
        rw [hlink]
        exact lookup_of_advance_linked hlink
      rw [h.advance hends, hlink] at hx
      cases hx
    obtain ⟨base', hx', hbase', hname⟩ := exists_step name ys hf hlinked
    have hends : t.EndsInDirectory (t.advance here xs) := by rwa [hx']
    rw [h.advance hends, hx'] at hx
    cases hx
    obtain ⟨e, he⟩ := Option.ne_none_iff_exists'.1 hstands
    exact ⟨Meets.step name ys hx', hname (isName_of_lookup he)⟩
  | @link budget here base names rest target q hx hq ih =>
    have hsame : t'.advance here names = t.advance here names := by
      apply h.advance
      cases hx' : t.advance here names with
      | arrived place' =>
        rw [follow_of_arrived hx'] at hf
        cases hf
        exact hdir
      | refused why =>
        rw [follow_of_refused hx'] at hf
        cases hf
      | linked target' base' rest' => exact lookup_of_advance_linked hx'
    rw [hsame] at hx
    rw [follow_of_linked hx] at hf
    obtain ⟨hmeets, hlookup⟩ := ih hf hstands
    exact ⟨Meets.link hx hmeets, hlookup⟩

/-- A path that leads to a directory passes nothing new when entries come. -/
theorem Grows.onWay (h : Grows t t') (hp : t.resolveDirectory [] path = .ok p) (hq : t'.OnWay path q) :
    t.OnWay path q := by
  obtain ⟨hresolve, hdir⟩ := resolveDirectory_eq_ok.1 hp
  rw [Tree.resolve, checkPath_of_resolve hresolve, origin_root] at hresolve
  exact h.meets hresolve hdir hq.1 hq.2

/-! ## A tree that changes under a path -/

/-- Entries go, and others come, or are written over, only while the path leads to a directory. -/
inductive Evolves (path : String) : Tree → Tree → Prop
  | refl (t : Tree) : Evolves path t t
  | shrink {t t' w : Tree} : Shrinks t t' → Evolves path t' w → Evolves path t w
  | grow {t t' w : Tree} {d : Location} :
      t.resolveDirectory [] path = .ok d → Grows t t' → Evolves path t' w → Evolves path t w

namespace Evolves

theorem of_shrinks (h : Shrinks t t') : Evolves path t t' := .shrink h (.refl t')

theorem of_grows {d : Location} (hd : t.resolveDirectory [] path = .ok d) (h : Grows t t') : Evolves path t t' :=
  .grow hd h (.refl t')

theorem trans (h : Evolves path t t') (h' : Evolves path t' w) : Evolves path t w := by
  induction h with
  | refl => exact h'
  | shrink hs _ ih => exact .shrink hs (ih h')
  | grow hd hg _ ih => exact .grow hd hg (ih h')

/-- Wherever the path leads in the end, it has led all the time. -/
theorem leadsAsBefore (h : Evolves path t t') : LeadsAsBefore [] path t t' := by
  induction h with
  | refl t => exact LeadsAsBefore.refl [] path t
  | shrink hs _ ih => exact (hs.leadsAsBefore path).trans ih
  | grow hd hg _ ih => exact (hg.leadsAsBefore hd).trans ih

/-- When the path leads to no directory any more, nothing comes. -/
theorem shrinks (h : Evolves path t t') (hlost : ∀ d, t.resolveDirectory [] path ≠ .ok d) : Shrinks t t' := by
  induction h with
  | refl t => exact Shrinks.refl t
  | shrink hs _ ih => exact hs.trans (ih fun d hd => hlost d (hs.leadsAsBefore path d hd))
  | grow hd _ _ _ => exact absurd hd (hlost _)

/-- If all that the path passes before its directory is there in the end, then at any time the path leads to its
directory, unless that has gone itself since the path has last led there. -/
theorem leads_or_gone {u : Tree} (h : Evolves path t u) (hon : Evolves path u w)
    (hp : t.resolveDirectory [] path = .ok p) (hkept : ∀ q, t.OnWay path q → q ≠ p → w.lookup q ≠ none) :
    u.resolveDirectory [] path = .ok p ∨
      u.lookup p = none ∧ u.resolve [] path = .error .notFound ∧
        ∃ before : Tree, before.resolveDirectory [] path = .ok p ∧ Shrinks before u := by
  induction h with
  | refl t => exact Or.inl hp
  | @shrink t t' u hs hu ih =>
    rcases hs.leads_or_lost hp with hp' | ⟨hlost, q, hq, hgone⟩
    · exact ih hon hp' fun q hq => hkept q (hs.onWay hq)
    · have hnowhere : ∀ d, t'.resolveDirectory [] path ≠ .ok d := fun d hd => by
        rw [(resolveDirectory_eq_ok.1 hd).1] at hlost
        cases hlost
      by_cases hqp : q = p
      · -- the directory itself has gone, and it does not come back
        subst hqp
        have hu' := hu.shrinks hnowhere
        exact Or.inr ⟨hu'.lookup_eq_none hgone, hu'.resolve_notFound rfl hlost, t, hp, hs.trans hu'⟩
      · exact absurd (((hu.trans hon).shrinks hnowhere).lookup_eq_none hgone) (hkept q hq hqp)
  | grow hd hg _ ih => exact ih hon (hg.resolveDirectory hp) fun q hq => hkept q (hg.onWay hp hq)

end Evolves

end Tree

end DocRunner
