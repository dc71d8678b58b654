import SubscriptionBundles.Context
import SubscriptionBundles.Error
import SubscriptionBundles.Timeline.Subscription

/-!
# Billing cycle days

The day of the month on which a subscription is billed; in a month too short for it, the last day.

* `nextBillingDate`             when a new billing day takes effect, seen from a reference date;
* `ownBillCycleDay`             the billing day a subscription brings along;
* `billCycleDayUnder`           the billing day it follows under an alignment;
* `BillCycleDays.resolve`       the same, remembered per subscription.

`BillCycleDays.remember` keeps one day for each subscription, the last that it was told.
-/

namespace SubscriptionBundles

/-- when a new billing day takes effect -/
inductive BillingDate
  | immediate
  | on (date : Date)
deriving DecidableEq

/-- The first such day on or after the reference date.  A reference that nobody asked for and that
is itself such a day takes effect at once. -/
def nextBillingDate (day : UInt32) (reference : Date) (explicit : Bool) :
    Except SubscriptionError BillingDate :=
  let found (d? : Option Date) : Except SubscriptionError BillingDate :=
    match d? with
    | some d => .ok (.on d)
    | none => .error (.invalidBillCycleDay day)
  if day.toNat < 1 ∨ 31 < day.toNat then .error (.invalidBillCycleDay day)
  else if day.toNat < reference.day then
    found ((reference.firstOfMonth.addMonths? 1).bind (·.onDay? day.toNat))
  else if day.toNat = reference.day ∧ explicit = false then .ok .immediate
  else found (reference.onDay? day.toNat)

/-- the billing day a subscription has been given, or the local day it is aligned on -/
def ownBillCycleDay (ctx : Context) (s : Subscription) : UInt32 :=
  s.current.billCycleDay?.getD (UInt32.ofNat (ctx.localDate s.alignStartDate).day)

def billCycleDayUnder (ctx : Context) (s : Subscription) (base : Option Subscription)
    (accountDay : Option UInt32) : BillingAlignment → UInt32
  | .account => accountDay.getD (ownBillCycleDay ctx s)
  | .bundle => ownBillCycleDay ctx (base.getD s)
  | .subscription => ownBillCycleDay ctx s

/-! ## remembered days -/

/-- billing days already worked out, by subscription -/
abbrev BillCycleDays := List (Uuid × UInt32)

namespace BillCycleDays

/-- the day is the one remembered for the subscription from now on -/
def remember (known : BillCycleDays) (id : Uuid) (day : UInt32) : BillCycleDays :=
  (id, day) :: known.filter (·.1 != id)

/-- the day remembered for the subscription, or else the one it follows, remembered from now on -/
def resolve (known : BillCycleDays) (ctx : Context) (s : Subscription)
    (base : Option Subscription) (alignment : BillingAlignment) (accountDay : Option UInt32) :
    UInt32 × BillCycleDays :=
  match known.lookup s.id with
  | some day => (day, known)
  | none =>
    let day := billCycleDayUnder ctx s base accountDay alignment
    (day, known.remember s.id day)

/-! ## small laws -/

@[simp] theorem lookup_remember_self (known : BillCycleDays) (id : Uuid) (day : UInt32) :
    (known.remember id day).lookup id = some day := by
  simp [remember]

theorem lookup_remember_of_ne {id other : Uuid} (different : other ≠ id) (known : BillCycleDays)
    (day : UInt32) : (known.remember id day).lookup other = known.lookup other := by
  simp only [remember, List.lookup_cons, beq_eq_false_iff_ne.2 different]
  induction known with
  | nil => rfl
  | cons entry rest ih =>
    obtain ⟨name, told⟩ := entry
    by_cases same : name = id
    · simp [same, List.lookup_cons, ih, beq_eq_false_iff_ne.2 different]
    · simp [same, List.lookup_cons, ih]

theorem lookup_resolve_self (known : BillCycleDays) (ctx : Context) (s : Subscription)
    (base : Option Subscription) (alignment : BillingAlignment) (accountDay : Option UInt32) :
    (known.resolve ctx s base alignment accountDay).2.lookup s.id =
      some (known.resolve ctx s base alignment accountDay).1 := by
  unfold resolve
  cases found : known.lookup s.id with
  | none => simp
  | some day => simp [found]

end BillCycleDays

end SubscriptionBundles
