import GeoBench.Machine.Invocation

/-!
# Machines of the cloud deployment

The six machines of the deployment, each with a name and a zone, and commands that run on one of
them.
-/

namespace GeoBench.Cloud

open GeoBench.Machine

/-- A named **machine** in a zone. -/
structure Instance where
  name : String
  zone : String
  deriving DecidableEq, Repr

/-- The machines of a deployment by their roles. -/
structure Layout where
  appWorkload : Instance
  appEurope : Instance
  appAmerica : Instance
  storeManager : Instance
  storeEurope : Instance
  storeAmerica : Instance
  deriving DecidableEq, Repr

/-- The zone of the machines in Europe, the managing ones among them. -/
abbrev zoneEurope : String := "europe-west3-a"

/-- The zone of the machines in America. -/
abbrev zoneAmerica : String := "us-central1-a"

/-- The layout that is set up unless another one is given. -/
def Layout.standard : Layout where
  appWorkload := ⟨"weaver-dsb-app-wrk2", zoneEurope⟩
  appEurope := ⟨"weaver-dsb-app-eu", zoneEurope⟩
  appAmerica := ⟨"weaver-dsb-app-us", zoneAmerica⟩
  storeManager := ⟨"weaver-dsb-db-manager", zoneEurope⟩
  storeEurope := ⟨"weaver-dsb-db-eu", zoneEurope⟩
  storeAmerica := ⟨"weaver-dsb-db-us", zoneAmerica⟩

/-- A command that runs **on** a machine. -/
def Instance.remote (i : Instance) (command : String) : Invocation where
  program := "gcloud"
  arguments := ["compute", "ssh", i.name, "--zone", i.zone, "--command", command]

/-- The listing of the nodes that joined the cluster, asked of its manager. -/
def Instance.nodeListing (manager : Instance) : Invocation :=
  manager.remote "sudo docker node ls"

/-- The listing of the services of the cluster, asked of its manager. -/
def Instance.serviceListing (manager : Instance) : Invocation :=
  manager.remote "sudo docker service ls"

end GeoBench.Cloud
