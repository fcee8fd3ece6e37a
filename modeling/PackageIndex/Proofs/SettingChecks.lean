import PackageIndex.Settings
import Mathlib

/-!
# Checks of settings

The values that count are checked one after the other, and the first check that refuses a value ends
the loading.  `Refuses` says on its own which values a check refuses and with which failure, and
`FirstRefusal` which of the checks comes first to do so.  The checks fail as the first refusal says
(`check_eq_error_iff`), and make the configuration that has the values if there is none
(`check_eq_ok_iff`).
-/

namespace PackageIndex

/-- Values of this kind can be gone through: texts, lists and tables. -/
def Value.isIterable : Value → Bool
  | .text _ | .list _ | .table _ => true
  | _ => false

namespace Settings

/-! ## Single checks -/

/-- A check of the values that count. -/
inductive Check where
  /-- The version is given as a text. -/
  | versionKind
  /-- The excluded names are a list of texts. -/
  | exclude
  /-- The version text names a version. -/
  | versionText
  /-- The switch is true or false. -/
  | switch (s : Setting)
deriving DecidableEq, Repr

/-- The checks, in the order in which they are made. -/
def checks : List Check :=
  [.versionKind, .exclude, .versionText, .switch .respectListing, .switch .sort, .switch .verbose]

/-- The failure that shows a refused value, if it can be shown. -/
def refusal (v : Value) (failure : String → Failure) : Failure :=
  (v.shown.map failure).getD .tooLongToShow

/-- A check refuses the values that count, with a failure. -/
inductive Refuses (value : Setting → Value) : Check → Failure → Prop
  | versionKind (h : ∀ text, value .version ≠ .text text) :
    Refuses value .versionKind (refusal (value .version) .versionNotText)
  | excludeText {text : String} (h : value .exclude = .text text) :
    Refuses value .exclude .excludeNotList
  | excludeItem {items : List Value} {v : Value} (h : value .exclude = .list items)
    (hv : v ∈ items) (hn : ∀ text, v ≠ .text text) : Refuses value .exclude .excludeNotList
  | excludeKind (h : (value .exclude).isIterable = false) :
    Refuses value .exclude (.notIterable (value .exclude).kindName)
  | versionText {text : String} (h : value .version = .text text)
    (hn : Version.ofText text = .error .invalid) : Refuses value .versionText (.invalidVersion text)
  | versionDigits {text : String} {count : ℕ} (h : value .version = .text text)
    (hn : Version.ofText text = .error (.tooManyDigits count)) :
    Refuses value .versionText (.tooManyDigits count)
  | switch {s : Setting} (h : ∀ b, value s ≠ .boolean b) :
    Refuses value (.switch s) (refusal (value s) (.notBoolean s.key))

/-- The first of some checks that refuses the values does so with a failure. -/
inductive FirstRefusal (value : Setting → Value) : List Check → Failure → Prop
  | here {c : Check} {cs : List Check} {f : Failure} (h : Refuses value c f) :
    FirstRefusal value (c :: cs) f
  | later {c : Check} {cs : List Check} {f : Failure} (h : ∀ g, ¬ Refuses value c g)
    (hlater : FirstRefusal value cs f) : FirstRefusal value (c :: cs) f

variable {value : Setting → Value} {v : Value} {s : Setting} {text : String} {f : Failure}

/-- A value is refused with the failure that shows it, if it can be shown. -/
lemma refuse_eq {α : Type} (v : Value) (failure : String → Failure) :
    (refuse v failure : Except Failure α) = .error (refusal v failure) := by
  unfold refuse refusal
  cases v.shown <;> rfl

/-- A version is given as a text and in no other way. -/
lemma versionText_eq_ok_iff : versionText v = .ok text ↔ v = .text text := by
  cases v <;> simp [versionText, refuse_eq]

/-- The version is not taken exactly if the check of its kind refuses it. -/
lemma versionText_eq_error_iff :
    versionText (value .version) = .error f ↔ Refuses value .versionKind f := by
  constructor
  · intro h
    have hne : ∀ text, value .version ≠ .text text := by
      intro text htext
      rw [versionText_eq_ok_iff.2 htext] at h
      cases h
    unfold versionText at h
    split at h
    · cases h
    · rw [refuse_eq, Except.error.injEq] at h
      exact h ▸ .versionKind hne
  · rintro ⟨hne⟩
    unfold versionText
    split
    · rename_i text htext
      exact absurd htext (hne text)
    · exact refuse_eq _ _

/-- A switch is given as true or false and in no other way. -/
lemma switch_eq_ok_iff {b : Bool} : switch s v = .ok b ↔ v = .boolean b := by
  cases v <;> simp [switch, refuse_eq]

/-- A switch is not taken exactly if its check refuses it. -/
lemma switch_eq_error_iff : switch s (value s) = .error f ↔ Refuses value (.switch s) f := by
  constructor
  · intro h
    have hne : ∀ b, value s ≠ .boolean b := by
      intro b hb
      rw [switch_eq_ok_iff.2 hb] at h
      cases h
    unfold switch at h
    split at h
    · cases h
    · rw [refuse_eq, Except.error.injEq] at h
      exact h ▸ .switch hne
  · intro hr
    cases hr with | switch hne => ?_
    unfold switch
    split
    · rename_i b hb
      exact absurd hb (hne b)
    · exact refuse_eq _ _

/-- The version of a configuration is the one that its text names. -/
lemma versionOf_eq_ok_iff {version : Version} :
    versionOf text = .ok version ↔ Version.ofText text = .ok version := by
  unfold versionOf
  split <;> simp_all

/-- A version text is not taken exactly if the check of such texts refuses it. -/
lemma versionOf_eq_error_iff (h : value .version = .text text) :
    versionOf text = .error f ↔ Refuses value .versionText f := by
  constructor
  · intro hf
    unfold versionOf at hf
    split at hf
    · cases hf
    · rename_i hinvalid
      exact Except.error.inj hf ▸ .versionText h hinvalid
    · rename_i count hdigits
      exact Except.error.inj hf ▸ .versionDigits h hdigits
  · intro hr
    cases hr with
    | versionText hother hn =>
      obtain rfl : text = _ := Value.text.inj (h.symm.trans hother)
      simp [versionOf, hn]
    | versionDigits hother hn =>
      obtain rfl : text = _ := Value.text.inj (h.symm.trans hother)
      simp [versionOf, hn]

/-! ### Excluded names -/

/-- Only a text has a text as its value. -/
lemma text?_eq_some_iff : text? v = some text ↔ v = .text text := by
  cases v <;> simp [text?]

/-- The texts of values can be taken if all values are texts. -/
lemma mapM_text?_eq_some_iff {items : List Value} {texts : List String} :
    items.mapM text? = some texts ↔ items = texts.map .text := by
  induction items generalizing texts with
  | nil => cases texts <;> simp
  | cons v items ih =>
    rw [List.mapM_cons]
    simp only [Option.bind_eq_bind, Option.bind_eq_some_iff, text?_eq_some_iff, ih]
    cases texts <;> simp

/-- The texts of values cannot be taken if one of them is no text. -/
lemma exists_of_mapM_text?_eq_none {items : List Value} (h : items.mapM text? = none) :
    ∃ v ∈ items, ∀ text, v ≠ .text text := by
  by_contra hall
  push Not at hall
  choose! textOf htextOf using hall
  have hitems : items = (items.map textOf).map .text := by
    rw [List.map_map]
    conv_lhs => rw [← List.map_id items]
    exact List.map_congr_left htextOf
  rw [mapM_text?_eq_some_iff.2 hitems] at h
  cases h

/-- The excluded names are given as a list of texts, or as the names of the items of a table. -/
lemma globs_eq_ok_iff {texts : List String} : globs v = .ok texts ↔
    v = .list (texts.map .text) ∨ ∃ items, v = .table items ∧ texts = items.map Prod.fst := by
  unfold globs
  split
  · rename_i items
    split
    · rename_i others hothers
      rw [mapM_text?_eq_some_iff] at hothers
      simp [hothers, List.map_inj_right (fun _ _ => Value.text.inj)]
    · rename_i hnone
      simp only [reduceCtorEq, Value.list.injEq, false_and, exists_false, or_false, false_iff]
      rintro rfl
      rw [mapM_text?_eq_some_iff.2 rfl] at hnone
      cases hnone
  · simp [eq_comm]
  · simp
  · simp_all

/-- The excluded names are not taken exactly if their check refuses them. -/
lemma globs_eq_error_iff :
    globs (value .exclude) = .error f ↔ Refuses value .exclude f := by
  constructor
  · intro h
    unfold globs at h
    split at h
    · rename_i items hitems
      split at h
      · cases h
      · rename_i hnone
        obtain ⟨v, hv, hne⟩ := exists_of_mapM_text?_eq_none hnone
        exact Except.error.inj h ▸ .excludeItem hitems hv hne
    · cases h
    · rename_i text htext
      exact Except.error.inj h ▸ .excludeText htext
    · rename_i hlist htable htext
      refine Except.error.inj h ▸ .excludeKind ?_
      generalize value .exclude = v at *
      cases v <;> simp_all [Value.isIterable]
  · intro hr
    cases hr with
    | excludeText h => rw [h, globs]
    | @excludeItem items v h hv hne =>
      have hnone : items.mapM text? = none := by
        rw [Option.eq_none_iff_forall_ne_some]
        intro texts htexts
        rw [mapM_text?_eq_some_iff] at htexts
        rw [htexts, List.mem_map] at hv
        obtain ⟨text, -, htext⟩ := hv
        exact hne text htext.symm
      rw [h, globs, hnone]
    | excludeKind h =>
      unfold globs
      split <;> simp_all [Value.isIterable]

/-! ## All checks -/

/-- Two steps in a row have a result if the first has one and the second has one after it. -/
lemma bind_eq_ok_iff {α β : Type} {step : Except Failure α} {next : α → Except Failure β} {b : β} :
    (step >>= next) = .ok b ↔ ∃ a, step = .ok a ∧ next a = .ok b := by
  cases step <;> simp [bind, Except.bind]

/-- If a check fails as it refuses values, then a sequence that begins with it fails as the first
refusal says, provided that what comes behind does. -/
lemma bind_eq_error_iff {α β : Type} {step : Except Failure α} {next : α → Except Failure β}
    {c : Check} {cs : List Check} (h : ∀ f, step = .error f ↔ Refuses value c f)
    (hnext : ∀ a, step = .ok a → ∀ f, next a = .error f ↔ FirstRefusal value cs f) (f : Failure) :
    (step >>= next) = .error f ↔ FirstRefusal value (c :: cs) f := by
  cases step with
  | error g =>
    have hg : Refuses value c g := (h g).1 rfl
    refine ⟨fun hf => ?_, fun hr => ?_⟩
    · obtain rfl : g = f := Except.error.inj hf
      exact .here hg
    · cases hr with
      | here hf => exact congrArg Except.error (Except.error.inj ((h f).2 hf))
      | later hnone => exact absurd hg (hnone g)
  | ok a =>
    have hnone : ∀ g, ¬ Refuses value c g := fun g hg => nomatch (h g).2 hg
    refine ⟨fun hf => .later hnone ((hnext a rfl f).1 hf), fun hr => ?_⟩
    cases hr with
    | here hf => exact absurd hf (hnone f)
    | later _ hlater => exact (hnext a rfl f).2 hlater

/-- The checks fail as the first refusal among them says. -/
theorem check_eq_error_iff {root : Path} :
    check root value = .error f ↔ FirstRefusal value checks f := by
  unfold check checks
  refine bind_eq_error_iff (fun f => versionText_eq_error_iff) (fun text htext => ?_) f
  rw [versionText_eq_ok_iff] at htext
  refine bind_eq_error_iff (fun f => globs_eq_error_iff) fun exclude _ => ?_
  refine bind_eq_error_iff (fun f => versionOf_eq_error_iff htext) fun version _ => ?_
  refine bind_eq_error_iff (fun f => switch_eq_error_iff) fun respectListing _ => ?_
  refine bind_eq_error_iff (fun f => switch_eq_error_iff) fun sort _ => ?_
  refine bind_eq_error_iff (fun f => switch_eq_error_iff) fun verbose _ f => ?_
  exact ⟨nofun, nofun⟩

end Settings

/-- The configuration has the values that count: the version is the one that the text names, and
the excluded names are those in a list, or the names in a table. -/
structure Config.Has (config : Config) (value : Setting → Value) : Prop where
  version : ∃ text, value .version = .text text ∧ Version.ofText text = .ok config.version
  exclude : value .exclude = .list (config.exclude.map .text) ∨
    ∃ items, value .exclude = .table items ∧ config.exclude = items.map Prod.fst
  respectListing : value .respectListing = .boolean config.respectListing
  sort : value .sort = .boolean config.sort
  verbose : value .verbose = .boolean config.verbose

namespace Settings

/-- The checks make the configuration that has the values, if there is one. -/
theorem check_eq_ok_iff {root : Path} {config : Config} :
    check root value = .ok config ↔ config.root = root ∧ config.Has value := by
  unfold check
  simp only [bind_eq_ok_iff, versionText_eq_ok_iff, globs_eq_ok_iff, versionOf_eq_ok_iff,
    switch_eq_ok_iff]
  constructor
  · rintro ⟨text, htext, exclude, hexclude, version, hversion, respectListing, hrespect, sort,
      hsort, verbose, hverbose, hconfig⟩
    obtain rfl := Except.ok.inj hconfig
    exact ⟨rfl, ⟨text, htext, hversion⟩, hexclude, hrespect, hsort, hverbose⟩
  · rintro ⟨rfl, ⟨text, htext, hversion⟩, hexclude, hrespect, hsort, hverbose⟩
    exact ⟨text, htext, config.exclude, hexclude, config.version, hversion, config.respectListing,
      hrespect, config.sort, hsort, config.verbose, hverbose, rfl⟩

end Settings

end PackageIndex
