/-!
# Store errors

Why the store refuses a call, with the sentence of each cause.
-/

namespace SubscriptionBundles

inductive StoreError
  | notFound (what : String)
  | conflict (what : String)
  | unavailable (reason : String)
deriving DecidableEq

def StoreError.message : StoreError → String
  | notFound what => "Not found: " ++ what
  | conflict what => "Conflict: " ++ what
  | unavailable reason => "Store unavailable: " ++ reason

end SubscriptionBundles
