import DocRunner.Proofs.Tree.Shrink
import DocRunner.Tree.Resolve

/-!
# Walks in a tree

* `Tree.advance_append`, `Tree.follow_append_ok`, `Tree.follow_append_error` : a walk along `xs ++ ys` is the
  walk along `xs`, gone on with `ys` and the links that are left to it;
* `Tree.follow_dot` : a final `.` asks for a directory;
* `Tree.follow_mono` : but for `linkLoop`, more links allowed change nothing;
* `Tree.Loses t t' here names` : the walk along `names` comes to an entry of `t` that `t'` has
  no more, before any link;
* `Tree.Meets t budget here names q` : the walk along `names` comes to the entry at `q`;
* `Tree.Shrinks.follow` : in a shrunk tree a walk ends as before, or it ends with `notFound`
  at an entry that has gone.
-/

namespace DocRunner

namespace Tree

variable {t t' : Tree} {here : Location} {name : String} {rest : List String}

/-! ## One step -/

theorem advance_nil (t : Tree) (here : Location) : t.advance here [] = .arrived here := rfl

theorem advance_cons (t : Tree) (here : Location) (name : String) (rest : List String) :
    t.advance here (name :: rest) =
      match t.lookup here with
      | some .directory =>
        if name = "." then t.advance here rest
        else if name = ".." then t.advance here.tail rest
        else if nameLimit < name.utf8ByteSize then .refused .nameTooLong
        else match t.lookup (name :: here) with
          | none => .refused .notFound
          | some (.link target) => .linked target here rest
          | some _ => t.advance (name :: here) rest
      | _ => .refused .notDirectory := rfl

theorem advance_of_not_directory (h : t.lookup here ≠ some .directory) :
    t.advance here (name :: rest) = .refused .notDirectory := by
  rw [advance_cons]
  split
  · rename_i hd
    exact absurd hd h
  · rfl

theorem advance_dot (h : t.lookup here = some .directory) :
    t.advance here ("." :: rest) = t.advance here rest := by
  rw [advance_cons, h]
  rfl

theorem advance_dotdot (h : t.lookup here = some .directory) :
    t.advance here (".." :: rest) = t.advance here.tail rest := by
  rw [advance_cons, h]
  rfl

theorem advance_long (h : t.lookup here = some .directory) (h₁ : name ≠ ".") (h₂ : name ≠ "..")
    (h₃ : nameLimit < name.utf8ByteSize) : t.advance here (name :: rest) = .refused .nameTooLong := by
  rw [advance_cons, h]
  simp only [if_neg h₁, if_neg h₂, if_pos h₃]

/-- What a name does that is neither `.` nor `..` nor too long. -/
theorem advance_name (h : t.lookup here = some .directory) (h₁ : name ≠ ".") (h₂ : name ≠ "..")
    (h₃ : ¬ nameLimit < name.utf8ByteSize) :
    t.advance here (name :: rest) =
      match t.lookup (name :: here) with
      | none => .refused .notFound
      | some (.link target) => .linked target here rest
      | some _ => t.advance (name :: here) rest := by
  rw [advance_cons, h]
  exact (if_neg h₁).trans ((if_neg h₂).trans ((if_neg h₃).trans rfl))

/-- The ways one step can go. -/
theorem advance_cases (t : Tree) (here : Location) (name : String) :
    t.lookup here ≠ some .directory ∨
      t.lookup here = some .directory ∧
        (name = "." ∨ name = ".." ∨ name ≠ "." ∧ name ≠ ".." ∧
          (nameLimit < name.utf8ByteSize ∨ ¬ nameLimit < name.utf8ByteSize)) := by
  by_cases h : t.lookup here = some .directory
  · by_cases h₁ : name = "."
    · exact Or.inr ⟨h, Or.inl h₁⟩
    · by_cases h₂ : name = ".."
      · exact Or.inr ⟨h, Or.inr (Or.inl h₂)⟩
      · exact Or.inr ⟨h, Or.inr (Or.inr ⟨h₁, h₂, lt_or_ge _ _ |>.imp_right not_lt.2⟩)⟩
  · exact Or.inl h

/-! ## Going on with a walk -/

theorem advance_append (t : Tree) (here : Location) (xs ys : List String) :
    t.advance here (xs ++ ys) =
      match t.advance here xs with
      | .arrived place => t.advance place ys
      | .refused why => .refused why
      | .linked target base rest => .linked target base (rest ++ ys) := by
  induction xs generalizing here with
  | nil => rw [List.nil_append, advance_nil]
  | cons name xs ih =>
    rw [List.cons_append]
    rcases advance_cases t here name with h | ⟨h, rfl | rfl | ⟨h₁, h₂, h₃ | h₃⟩⟩
    · rw [advance_of_not_directory h, advance_of_not_directory h]
    · rw [advance_dot h, advance_dot h, ih]
    · rw [advance_dotdot h, advance_dotdot h, ih]
    · rw [advance_long h h₁ h₂ h₃, advance_long h h₁ h₂ h₃]
    · rw [advance_name h h₁ h₂ h₃, advance_name h h₁ h₂ h₃]
      split
      · rfl
      · rfl
      · exact ih _

/-- A link is met in a directory. -/
theorem lookup_of_advance_linked {names : List String} {target : String} {base : Location}
    (h : t.advance here names = .linked target base rest) : t.lookup base = some .directory := by
  induction names generalizing here with
  | nil =>
    rw [advance_nil] at h
    cases h
  | cons name names ih =>
    rcases advance_cases t here name with hd | ⟨hd, rfl | rfl | ⟨h₁, h₂, h₃ | h₃⟩⟩
    · rw [advance_of_not_directory hd] at h
      cases h
    · exact ih (by rwa [advance_dot hd] at h)
    · exact ih (by rwa [advance_dotdot hd] at h)
    · rw [advance_long hd h₁ h₂ h₃] at h
      cases h
    · rw [advance_name hd h₁ h₂ h₃] at h
      split at h
      · cases h
      · cases h
        exact hd
      · exact ih h

theorem follow_eq (t : Tree) (budget : Nat) (here : Location) (names : List String) :
    t.follow budget here names =
      match t.advance here names with
      | .arrived place => .ok place
      | .refused why => .error why
      | .linked target base rest =>
        match budget with
        | 0 => .error .linkLoop
        | budget + 1 => t.follow budget (origin target base) (Path.components target ++ rest) :=
  follow.eq_def t budget here names

theorem follow_of_arrived {budget : Nat} {names : List String} {place : Location}
    (h : t.advance here names = .arrived place) : t.follow budget here names = .ok place := by
  rw [follow_eq, h]

theorem follow_of_refused {budget : Nat} {names : List String} {why : Refusal}
    (h : t.advance here names = .refused why) : t.follow budget here names = .error why := by
  rw [follow_eq, h]

theorem follow_of_linked {budget : Nat} {names : List String} {target : String} {base : Location}
    (h : t.advance here names = .linked target base rest) :
    t.follow (budget + 1) here names = t.follow budget (origin target base) (Path.components target ++ rest) := by
  rw [follow_eq, h]

theorem follow_of_linked_zero {names : List String} {target : String} {base : Location}
    (h : t.advance here names = .linked target base rest) : t.follow 0 here names = .error .linkLoop := by
  rw [follow_eq, h]

theorem follow_append_of_arrived {budget : Nat} {xs : List String} {place : Location}
    (h : t.advance here xs = .arrived place) (ys : List String) :
    t.follow budget here (xs ++ ys) = t.follow budget place ys := by
  rw [follow_eq, advance_append, h, follow_eq t budget place]

/-- Behind a walk that arrives, the names that follow are walked with the links that are left. -/
theorem follow_append_ok {budget : Nat} {xs : List String} {place : Location}
    (h : t.follow budget here xs = .ok place) :
    ∃ left ≤ budget, ∀ ys, t.follow budget here (xs ++ ys) = t.follow left place ys := by
  fun_induction Tree.follow t budget here xs with
  | case1 budget here xs p hx =>
    cases h
    refine ⟨budget, le_refl _, fun ys => ?_⟩
    rw [Tree.follow.eq_def, advance_append, hx, Tree.follow.eq_def t budget place ys]
  | case2 => cases h
  | case3 => cases h
  | case4 here xs target base rest hx budget ih =>
    obtain ⟨left, hle, hys⟩ := ih h
    refine ⟨left, by omega, fun ys => ?_⟩
    have happ : t.advance here (xs ++ ys) = .linked target base (rest ++ ys) := by rw [advance_append, hx]
    rw [follow_of_linked happ, ← List.append_assoc, hys]

/-- A walk that fails fails with whatever names behind. -/
theorem follow_append_error {budget : Nat} {xs : List String} {why : Refusal}
    (h : t.follow budget here xs = .error why) (ys : List String) :
    t.follow budget here (xs ++ ys) = .error why := by
  fun_induction Tree.follow t budget here xs with
  | case1 => cases h
  | case2 budget here xs w hx => rw [follow_of_refused (by rw [advance_append, hx]), ← h]
  | case3 here xs target base rest hx => rw [follow_of_linked_zero (by rw [advance_append, hx]), ← h]
  | case4 here xs target base rest hx budget ih =>
    have happ : t.advance here (xs ++ ys) = .linked target base (rest ++ ys) := by rw [advance_append, hx]
    rw [follow_of_linked happ, ← List.append_assoc]
    exact ih h

/-- A final `.` changes nothing about a walk, unless the walk ends at what is no directory. -/
theorem follow_append_dot (t : Tree) (budget : Nat) (here : Location) (xs : List String) :
    t.follow budget here (xs ++ ["."]) = t.follow budget here xs ∧
        (∀ place, t.follow budget here xs = .ok place → t.lookup place = some .directory) ∨
      ∃ place, t.follow budget here xs = .ok place ∧ t.lookup place ≠ some .directory ∧
        t.follow budget here (xs ++ ["."]) = .error .notDirectory := by
  cases hx : t.follow budget here xs with
  | error why => exact Or.inl ⟨follow_append_error hx ["."], fun _ h => by cases h⟩
  | ok place =>
    obtain ⟨left, -, hys⟩ := follow_append_ok hx
    rw [hys]
    by_cases hd : t.lookup place = some .directory
    · have harr : t.advance place ["."] = .arrived place := by rw [advance_dot hd, advance_nil]
      refine Or.inl ⟨follow_of_arrived harr, fun p h => ?_⟩
      cases h
      exact hd
    · exact Or.inr ⟨place, rfl, hd, follow_of_refused (advance_of_not_directory hd)⟩

/-- A final `.` asks for a directory. -/
theorem follow_dot {budget : Nat} {xs : List String} {place : Location} :
    t.follow budget here (xs ++ ["."]) = .ok place ↔
      t.follow budget here xs = .ok place ∧ t.lookup place = some .directory := by
  rcases follow_append_dot t budget here xs with ⟨he, hd⟩ | ⟨p, hp, hd, he⟩
  · rw [he]
    exact ⟨fun h => ⟨h, hd place h⟩, And.left⟩
  · rw [he, hp]
    constructor
    · intro h
      cases h
    · rintro ⟨h, hplace⟩
      cases h
      exact absurd hplace hd

/-- A final `.` is no reason for `notFound`. -/
theorem notFound_of_follow_dot {budget : Nat} {xs : List String}
    (h : t.follow budget here (xs ++ ["."]) = .error .notFound) : t.follow budget here xs = .error .notFound := by
  rcases follow_append_dot t budget here xs with ⟨he, -⟩ | ⟨p, -, -, he⟩
  · rw [← he, h]
  · rw [he] at h
    cases h

/-- Whatever else a walk ends with does not change when more links may be followed. -/
theorem follow_mono {budget more : Nat} {names : List String} {r : Except Refusal Location}
    (h : t.follow budget here names = r) (hr : r ≠ .error .linkLoop) (hle : budget ≤ more) :
    t.follow more here names = r := by
  fun_induction Tree.follow t budget here names generalizing more with
  | case1 budget here names p hx => rw [follow_of_arrived hx, ← h]
  | case2 budget here names w hx => rw [follow_of_refused hx, ← h]
  | case3 => exact absurd h.symm hr
  | case4 here names target base rest hx budget ih =>
    obtain ⟨more, rfl⟩ : ∃ m, more = m + 1 := ⟨more - 1, by omega⟩
    rw [follow_of_linked hx]
    exact ih h (by omega)

theorem advance_refused {names : List String} {why : Refusal} (h : t.advance here names = .refused why) :
    why = .notFound ∨ why = .notDirectory ∨ why = .nameTooLong := by
  induction names generalizing here with
  | nil =>
    rw [advance_nil] at h
    cases h
  | cons name names ih =>
    rcases advance_cases t here name with hd | ⟨hd, rfl | rfl | ⟨h₁, h₂, h₃ | h₃⟩⟩
    · rw [advance_of_not_directory hd] at h
      cases h
      exact Or.inr (Or.inl rfl)
    · exact ih (by rwa [advance_dot hd] at h)
    · exact ih (by rwa [advance_dotdot hd] at h)
    · rw [advance_long hd h₁ h₂ h₃] at h
      cases h
      exact Or.inr (Or.inr rfl)
    · rw [advance_name hd h₁ h₂ h₃] at h
      split at h
      · cases h
        exact Or.inl rfl
      · cases h
      · exact ih h

/-- The causes for which a walk fails. -/
theorem follow_error {budget : Nat} {names : List String} {why : Refusal}
    (h : t.follow budget here names = .error why) :
    why = .notFound ∨ why = .notDirectory ∨ why = .nameTooLong ∨ why = .linkLoop := by
  fun_induction Tree.follow t budget here names with
  | case1 => cases h
  | case2 budget here names w hx =>
    cases h
    rcases advance_refused hx with rfl | rfl | rfl <;> simp
  | case3 =>
    cases h
    simp
  | case4 here names target base rest hx budget ih => exact ih h

/-! ## Walks in a shrunk tree -/

/-- A walk along names comes to the entry at a location, on its way to the first link or behind links. -/
inductive Meets (t : Tree) : Nat → Location → List String → Location → Prop
  | step {budget : Nat} {here base : Location} {xs : List String} (name : String) (ys : List String) :
      t.advance here xs = .arrived base → Meets t budget here (xs ++ name :: ys) (name :: base)
  | link {budget : Nat} {here base : Location} {names rest : List String} {target : String} {q : Location} :
      t.advance here names = .linked target base rest →
      Meets t budget (origin target base) (Path.components target ++ rest) q → Meets t (budget + 1) here names q

/-- A walk comes to an entry that has gone, before it comes to a link. -/
def Loses (t t' : Tree) (here : Location) (names : List String) : Prop :=
  ∃ xs name ys base e, names = xs ++ name :: ys ∧ t.advance here xs = .arrived base ∧
    t.lookup (name :: base) = some e ∧ t'.lookup (name :: base) = none

/-- A walk that goes on with one that comes to such an entry comes to it too. -/
theorem Loses.cons {here there : Location} {names : List String} (h : Loses t t' there names)
    (hgo : ∀ xs, t.advance here (name :: xs) = t.advance there xs) : Loses t t' here (name :: names) := by
  obtain ⟨xs, next, ys, base, e, rfl, harr, hgone⟩ := h
  exact ⟨name :: xs, next, ys, base, e, rfl, (hgo xs).trans harr, hgone⟩

/-- As far as the first link, a walk in a shrunk tree goes as before or comes to an entry that has gone. -/
theorem Shrinks.advance (h : Shrinks t t') {here : Location} (hh : t'.lookup here = t.lookup here)
    (names : List String) :
    t'.advance here names = t.advance here names ∨
      t'.advance here names = .refused .notFound ∧ Loses t t' here names := by
  induction names generalizing here with
  | nil => exact Or.inl (by rw [advance_nil, advance_nil])
  | cons name names ih =>
    rcases advance_cases t here name with hd | ⟨hd, rfl | rfl | ⟨h₁, h₂, h₃ | h₃⟩⟩
    · rw [advance_of_not_directory hd, advance_of_not_directory (by rwa [hh])]
      exact Or.inl rfl
    · rw [advance_dot hd, advance_dot (by rw [hh, hd])]
      exact (ih hh).imp_right (And.imp_right fun hl => hl.cons fun _ => advance_dot hd)
    · rw [advance_dotdot hd, advance_dotdot (by rw [hh, hd])]
      have hup : t'.lookup here.tail = t.lookup here.tail := by
        rw [lookup_tail hd, lookup_tail (by rw [hh, hd])]
      exact (ih hup).imp_right (And.imp_right fun hl => hl.cons fun _ => advance_dotdot hd)
    · rw [advance_long hd h₁ h₂ h₃, advance_long (by rw [hh, hd]) h₁ h₂ h₃]
      exact Or.inl rfl
    · rw [advance_name hd h₁ h₂ h₃, advance_name (by rw [hh, hd]) h₁ h₂ h₃]
      cases hl' : t'.lookup (name :: here) with
      | none =>
        cases hl : t.lookup (name :: here) with
        | none => exact Or.inl rfl
        | some e => exact Or.inr ⟨rfl, [], name, names, here, e, rfl, advance_nil t here, hl, hl'⟩
      | some e =>
        have hl := h _ _ hl'
        have hrec := ih (hl'.trans hl.symm)
        rw [hl]
        -- at a link the walk ends, behind any other entry it goes on
        cases e with
        | link target => exact Or.inl rfl
        | directory =>
          exact hrec.imp_right (And.imp_right fun hx => hx.cons fun _ => by rw [advance_name hd h₁ h₂ h₃, hl])
        | file bytes =>
          exact hrec.imp_right (And.imp_right fun hx => hx.cons fun _ => by rw [advance_name hd h₁ h₂ h₃, hl])
        | tool program =>
          exact hrec.imp_right (And.imp_right fun hx => hx.cons fun _ => by rw [advance_name hd h₁ h₂ h₃, hl])

theorem origin_root (path : String) : origin path [] = [] := ite_self []

theorem lookup_origin (target : String) {base : Location} (hb : t'.lookup base = t.lookup base) :
    t'.lookup (origin target base) = t.lookup (origin target base) := by
  unfold origin
  split
  · rfl
  · exact hb

/-- In a shrunk tree a walk ends as before, or it ends with `notFound` at an entry that has gone. -/
theorem Shrinks.follow (h : Shrinks t t') {here : Location} (hh : t'.lookup here = t.lookup here) (budget : Nat)
    (names : List String) :
    t'.follow budget here names = t.follow budget here names ∨
      t'.follow budget here names = .error .notFound ∧
        ∃ q e, t.Meets budget here names q ∧ t.lookup q = some e ∧ t'.lookup q = none := by
  fun_induction Tree.follow t budget here names with
  | case1 budget here names p hx =>
    rcases h.advance hh names with ha | ⟨hr, xs, name, ys, base, e, rfl, ha, hl⟩
    · exact Or.inl (follow_of_arrived (ha.trans hx))
    · exact Or.inr ⟨follow_of_refused hr, name :: base, e, Meets.step name ys ha, hl⟩
  | case2 budget here names w hx =>
    rcases h.advance hh names with ha | ⟨hr, xs, name, ys, base, e, rfl, ha, hl⟩
    · exact Or.inl (follow_of_refused (ha.trans hx))
    · exact Or.inr ⟨follow_of_refused hr, name :: base, e, Meets.step name ys ha, hl⟩
  | case3 here names target base rest hx =>
    rcases h.advance hh names with ha | ⟨hr, xs, name, ys, base, e, rfl, ha, hl⟩
    · exact Or.inl (follow_of_linked_zero (ha.trans hx))
    · exact Or.inr ⟨follow_of_refused hr, name :: base, e, Meets.step name ys ha, hl⟩
  | case4 here names target base rest hx budget ih =>
    rcases h.advance hh names with ha | ⟨hr, xs, name, ys, base, e, rfl, ha, hl⟩
    · have hx' := ha.trans hx
      have hbase : t'.lookup base = t.lookup base := by
        rw [lookup_of_advance_linked hx, lookup_of_advance_linked hx']
      rw [follow_of_linked hx']
      refine (ih (lookup_origin target hbase)).imp_right ?_
      rintro ⟨hr, q, e, hq, hl⟩
      exact ⟨hr, q, e, Meets.link hx hq, hl⟩
    · exact Or.inr ⟨follow_of_refused hr, name :: base, e, Meets.step name ys ha, hl⟩

theorem Shrinks.follow_ok (h : Shrinks t t') {here place : Location} (hh : t'.lookup here = t.lookup here)
    {budget : Nat} {names : List String} (hf : t'.follow budget here names = .ok place) :
    t.follow budget here names = .ok place := by
  rcases h.follow hh budget names with he | ⟨hn, -⟩
  · rw [← he, hf]
  · rw [hn] at hf
    cases hf

/-! ## Paths in a shrunk tree -/

variable {start : Location} {path : String}

theorem Shrinks.resolve (h : Shrinks t t') (hs : t'.lookup start = t.lookup start) (path : String) :
    t'.resolve start path = t.resolve start path ∨ t'.resolve start path = .error .notFound := by
  unfold Tree.resolve
  cases checkPath path with
  | error why => exact Or.inl rfl
  | ok _ => exact (h.follow (lookup_origin path hs) _ _).imp_right And.left

theorem Shrinks.resolve_notFound (h : Shrinks t t') (hs : t'.lookup start = t.lookup start)
    (hr : t.resolve start path = .error .notFound) : t'.resolve start path = .error .notFound := by
  rcases h.resolve hs path with he | hn
  · rw [he, hr]
  · exact hn

theorem resolveDirectory_eq_ok {d : Location} :
    t.resolveDirectory start path = .ok d ↔ t.resolve start path = .ok d ∧ t.lookup d = some .directory := by
  unfold resolveDirectory
  cases t.resolve start path with
  | error why => simp
  | ok place =>
    dsimp only
    split
    · rename_i hp
      constructor
      · intro hd
        cases hd
        exact ⟨rfl, hp⟩
      · exact fun hd => hd.1
    · rename_i hp
      constructor
      · intro hd
        cases hd
      · rintro ⟨hd, hdir⟩
        cases hd
        exact absurd hdir hp

end Tree

end DocRunner
