import SubscriptionBundles.Catalog.Basic
import SubscriptionBundles.Proofs.Outcomes

/-!
# Plans of one name

A catalog files its plans under the lower case of their names, and a limit counts plans whose names
are equal up to the case of ASCII letters.  The second is the finer of the two: no other plan of a
catalog counts against a plan.

* `Text.toLower_induction`     a character is its own lower case, or one of 26 letters;
* `Text.lower_asciiLower`      the case of ASCII letters is lost in lower case;
* `Catalog.eq_of_sameAscii`    plans of a catalog are told apart by name;
* `Catalog.mem_of_resolvePlan` a plan that is resolved is one of the catalog's.
-/

namespace SubscriptionBundles

namespace Text

/-! ## letters -/

theorem toLower_induction {P : Char → Char → Prop} (same : ∀ c, P c c)
    (letters : ∀ n < 26, P (Char.ofNat (65 + n)) (Char.ofNat (65 + n)).toLower) (c : Char) :
    P c c.toLower := by
  by_cases upper : c.val ≥ 'A'.val ∧ c.val ≤ 'Z'.val
  · have low : 65 ≤ c.toNat := upper.1
    have high : c.toNat ≤ 90 := upper.2
    have kept := letters (c.toNat - 65) (by omega)
    have place : 65 + (c.toNat - 65) = c.toNat := by omega
    rw [place, Char.ofNat_toNat] at kept
    exact kept
  · have own : c.toLower = c := dif_neg upper
    rw [own]
    exact same c

theorem isCased_toLower (c : Char) : isCased c.toLower = isCased c :=
  toLower_induction (P := fun c d => isCased d = isCased c) (fun _ => rfl) (by decide +kernel) c

theorem isCaseIgnorable_toLower (c : Char) : isCaseIgnorable c.toLower = isCaseIgnorable c :=
  toLower_induction (P := fun c d => isCaseIgnorable d = isCaseIgnorable c) (fun _ => rfl)
    (by decide +kernel) c

theorem meetsLetter_toLower (cs : List Char) : meetsLetter (cs.map Char.toLower) = meetsLetter cs := by
  induction cs with
  | nil => rfl
  | cons c cs ih =>
    unfold meetsLetter at *
    rw [List.map_cons, List.dropWhile_cons, List.dropWhile_cons, isCaseIgnorable_toLower]
    by_cases skipped : isCaseIgnorable c = true
    · rw [if_pos skipped, if_pos skipped]
      exact ih
    · rw [if_neg skipped, if_neg skipped]
      exact isCased_toLower c

/-- neither of the letters with a rule of their own is the lower case of another character -/
theorem lowerChar_toLower (before : List Char) (c : Char) (after : List Char) :
    lowerChar (before.map Char.toLower) c.toLower (after.map Char.toLower) =
      lowerChar before c after := by
  have plain := toLower_induction
    (P := fun c d => c ≠ d → c ≠ '\u03A3' ∧ c ≠ '\u0130' ∧ d ≠ '\u03A3' ∧ d ≠ '\u0130' ∧
      lowerCode d.toNat = lowerCode c.toNat)
    (fun _ h => absurd rfl h) (by decide +kernel) c
  unfold lowerChar
  rw [meetsLetter_toLower, meetsLetter_toLower]
  by_cases own : c = c.toLower
  · rw [← own]
  · obtain ⟨hs, hi, hs', hi', same⟩ := plain own
    rw [if_neg hs, if_neg hi, if_neg hs', if_neg hi', same]

/-! ## texts -/

theorem lowerChars_toLower (before cs : List Char) :
    lowerChars (before.map Char.toLower) (cs.map Char.toLower) = lowerChars before cs := by
  induction cs generalizing before with
  | nil => rfl
  | cons c cs ih =>
    have later := ih (c :: before)
    rw [List.map_cons] at later
    show lowerChar _ c.toLower _ ++ lowerChars (c.toLower :: _) _ = _
    rw [lowerChar_toLower, later]
    rfl

theorem lower_asciiLower (text : String) : lower (asciiLower text) = lower text := by
  unfold lower asciiLower
  rw [String.toList_ofList]
  exact congrArg String.ofList (lowerChars_toLower [] text.toList)

theorem lower_eq_of_sameAscii {a b : String} (h : sameAscii a b = true) : lower a = lower b := by
  rw [← lower_asciiLower a, sameAscii_iff.1 h, lower_asciiLower]

end Text

/-! ## plans -/

namespace Catalog
variable {c : Catalog}

theorem eq_of_sameAscii {p q : Plan} (hp : p ∈ c.plans) (hq : q ∈ c.plans)
    (same : Text.sameAscii p.name q.name = true) : p = q :=
  eq_of_key_eq c.plans_distinct hp hq (Text.lower_eq_of_sameAscii same)

theorem mem_of_namedPlan {s : PlanSpecifier} {p : Plan} (h : c.namedPlan s = .ok p) :
    p ∈ c.plans := by
  unfold namedPlan at h
  split at h
  · next name _ =>
    unfold findPlan at h
    split at h
    · next found =>
      cases h
      exact mem_of_plan? found
    · cases h
  · split at h
    · next found =>
      cases h
      exact List.mem_of_find?_eq_some found
    · cases h

/-- a plan that is resolved is the one that is named, and has the phase that is asked for -/
theorem resolvePlan_of_ok {s : PlanSpecifier} {overrides : List PriceOverride} {p : Plan}
    (h : c.resolvePlan s overrides = .ok p) :
    c.namedPlan s = .ok p ∧ ∃ k, p.phaseIndex? s.phaseType = some k := by
  unfold resolvePlan at h
  obtain ⟨_, h⟩ := refuse_eq_ok.1 h
  obtain ⟨q, named, h⟩ := bind_eq_ok.1 h
  obtain ⟨_, h⟩ := refuse_eq_ok.1 h
  obtain ⟨has, h⟩ := refuse_eq_ok.1 h
  rw [Option.isNone_iff_eq_none, ← ne_eq, Option.ne_none_iff_exists'] at has
  cases stray : strayOverride? q overrides with
  | some o =>
    rw [stray] at h
    cases h
  | none =>
    rw [stray] at h
    cases h
    exact ⟨named, has⟩

theorem mem_of_resolvePlan {s : PlanSpecifier} {overrides : List PriceOverride} {p : Plan}
    (h : c.resolvePlan s overrides = .ok p) : p ∈ c.plans :=
  mem_of_namedPlan (resolvePlan_of_ok h).1

end Catalog

end SubscriptionBundles
