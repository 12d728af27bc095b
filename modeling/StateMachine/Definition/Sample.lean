import StateMachine.Definition

namespace StateMachine.Definition.Sample

def audioPlayer : Definition where
  name := "audio_player"
  states := ["init", "loading", "playing", "paused"]
  rules := [
    (Rule.on "load").fromAny.toState "loading",
    (Rule.on "play").fromStates ["loading", "paused"] |>.toState "playing",
    (Rule.on "pause").fromStates ["playing"] |>.toState "paused",
    (Rule.on "error").fromAny.toState "init"]

def initFinal : Definition where
  name := "init_final"
  states := ["init", "running", "final"]
  rules := [
    (Rule.on "run").fromStates ["init"] |>.toState "running",
    (Rule.on "finish").fromStates ["running"] |>.toState "final"]

def lonely : Definition where
  name := "lonely"
  states := ["only"]

/-- A machine with a repeated state, an unknown source and an unknown target. -/
def badTarget : Definition where
  name := "bad_target"
  states := ["a", "b", "a"]
  rules := [
    (Rule.on "go").fromStates ["a", "x"] |>.toState "nowhere",
    (Rule.on "back").fromAny.toState "a"]

end StateMachine.Definition.Sample
