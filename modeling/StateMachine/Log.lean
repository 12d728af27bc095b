namespace StateMachine

inductive Level where
  | debug
  | trace
  deriving DecidableEq

def Level.name : Level → String
  | .debug => "DEBUG"
  | .trace => "TRACE"

inductive LogValue where
  | count (n : Nat)
  | text (text : String)
  deriving DecidableEq

structure LogRecord where
  level : Level
  message : String
  fields : List (String × LogValue)
  deriving DecidableEq

end StateMachine
