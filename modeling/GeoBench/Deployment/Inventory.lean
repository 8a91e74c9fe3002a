/-!
# The inventory of machines

The inventory tells the playbooks which machines there are: one line for each machine, in groups by
role, with its address and the user that it is reached as.
-/

namespace GeoBench.Deployment

/-- The addresses of the machines. -/
structure Hosts where
  storeManager : String
  storeEurope : String
  storeAmerica : String
  appWorkload : String
  appEurope : String
  appAmerica : String
  deriving DecidableEq, Repr

/-- The port of the application in Europe. -/
abbrev portEurope : Nat := 9000

/-- The port of the application in America. -/
abbrev portAmerica : Nat := 9001

/-- The line of a machine: its padded name, its address, the user, and what else is said of it. -/
def machineLine (name host user more : String) : String :=
  name ++ " ansible_host=" ++ host ++ " user=" ++ user ++ more

/-- What is said of a machine that runs the application. -/
def appFacts (region : String) (port : Nat) : String :=
  " region=\"" ++ region ++ "\" app_port=\"" ++ toString port ++ "\""

/-- The lines of an **inventory**. -/
def inventoryLines (h : Hosts) (user : String) : List String :=
  ["[swarm_manager]",
   machineLine "weaver-dsb-db-manager" h.storeManager user "",
   "",
   "[swarm_workers]",
   machineLine "weaver-dsb-db-eu     " h.storeEurope user "",
   machineLine "weaver-dsb-db-us     " h.storeAmerica user "",
   "",
   "[app_wrk2]",
   machineLine "weaver-dsb-app-wrk2  " h.appWorkload user "",
   "",
   "[app_services]",
   machineLine "weaver-dsb-app-eu    " h.appEurope user (appFacts "eu" portEurope),
   machineLine "weaver-dsb-app-us    " h.appAmerica user (appFacts "us" portAmerica)]

/-- The text of an inventory. -/
def renderInventory (h : Hosts) (user : String) : String :=
  String.join ((inventoryLines h user).map (· ++ "\n"))

end GeoBench.Deployment
