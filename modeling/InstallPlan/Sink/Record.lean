import InstallPlan.Sink.Basic

/-!
# Sink — Record

Remembers the steps of a plan in order and does nothing else with them.
-/

namespace InstallPlan

/-- The sink that remembers steps. -/
def Sink.record : Sink (List Step) where
  heading name steps :=
    { state := steps ++ [.heading name]
      output := [(Step.heading name).announcement "provision::sink::record"] }
  command text steps :=
    { state := steps ++ [.command text]
      output := [(Step.command text).announcement "provision::sink::record"] }

end InstallPlan
