import SubscriptionBundles.Calendar.Instant
import SubscriptionBundles.Uuid.Basic

/-!
# The context of a request

Whose request it is, the instant it is processed at, and the account's clock: a fixed offset from
UTC and a reference time, whose time of day stands in wherever an instant is named by its date.

* `Context.localDate`  the date of an instant on the account's clock;
* `Context.today`      the date of the request;
* `Context.instantOf`  the instant of a date at the account's reference time of day.

A reference time in a leap second is kept in UTC only.  On a clock ahead of UTC the second after it
stands in for it, on a clock behind UTC the second before it.
-/

namespace SubscriptionBundles

/-- seconds ahead of UTC, less than a day either way -/
structure UtcOffset where
  seconds : Int
  within_day : -86400 < seconds ∧ seconds < 86400
deriving DecidableEq

namespace UtcOffset

def utc : UtcOffset := ⟨0, by decide⟩

def ofSeconds? (seconds : Int) : Option UtcOffset :=
  if h : -86400 < seconds ∧ seconds < 86400 then some ⟨seconds, h⟩ else none

end UtcOffset

structure Context where
  accountId : Uuid
  now : Instant
  referenceTime : Instant
  offset : UtcOffset
deriving DecidableEq

namespace Context

/-- a request on an account in UTC whose reference time is the present -/
def ofNow (accountId : Uuid) (now : Instant) : Context := ⟨accountId, now, now, .utc⟩

/-- the day number of an instant on the account's clock -/
def localDay (ctx : Context) (i : Instant) : Int := (i.second + ctx.offset.seconds) / 86400

def localDate (ctx : Context) (i : Instant) : Date := Date.ofDayNumber (ctx.localDay i)

def today (ctx : Context) : Date := ctx.localDate ctx.now

/-- the reference time, moved by whole days to where the account's clock shows the date -/
def instantOf (ctx : Context) (d : Date) : Instant :=
  let reference := ctx.referenceTime
  let moved : Instant := ⟨reference.day + d.dayNumber - ctx.localDay reference, reference.time⟩
  if ctx.offset.seconds = 0 then moved else moved.leaveLeap (0 < ctx.offset.seconds)

end Context

end SubscriptionBundles
