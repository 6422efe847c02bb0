import Discovery.Agent.Basic

namespace Discovery

/-!
# Occasions

What an agent may do depends on the moment: it stops only when it is disposed,
the time is what its clock shows, and it hears nothing but what it receives.
An `Occasion` says what a moment is the occasion for, and bounds the steps of
the publisher and of the subscriber.
-/

/-- What a moment is the occasion for. -/
structure Occasion where
  /-- The agent may stop. -/
  stopping : Prop
  /-- The subscriptions that may be told of a change. -/
  telling : Nat → Prop
  /-- Subscriptions may be disposed that have been told for the last time. -/
  concluding : Prop
  /-- The subscriptions whose callbacks may be started. -/
  starting : Nat → Prop
  /-- The changes that subscriptions are to be told of may be collected. -/
  collecting : Prop
  /-- What the clock may show. -/
  timely : Instant → Prop
  /-- The streams on which something may be heard. -/
  heard : StreamId → Prop
  /-- The categories that may be subscribed to. -/
  wanted : String → Prop
  /-- The resources that may be published. -/
  offered : LocalResource → Prop

/-- What a subscriber or a publisher in service is asked to do by itself. -/
def Occasion.service : Occasion where
  stopping := False
  telling _ := True
  concluding := False
  starting _ := False
  collecting := True
  timely _ := True
  heard _ := True
  wanted _ := True
  offered _ := True

end Discovery
