/-!
The filter of log events that holds when the environment names none.
-/

namespace RandomBeacon

def defaultFilter (level : String) : String :=
  "beacon_client=" ++ level ++ ",beacon_demo=" ++ level

end RandomBeacon
