import StateMachine.Json.Read
import StateMachine.Policy

namespace StateMachine

def Dispatch.variants : List (String × Dispatch) := [("nested", .nested), ("queued", .queued)]

def Forwarding.variants : List (String × Forwarding) := [("propagate", .propagate), ("detach", .detach)]

def Dispatch.name : Dispatch → String
  | .nested => "nested"
  | .queued => "queued"

def Forwarding.name : Forwarding → String
  | .propagate => "propagate"
  | .detach => "detach"

namespace Policy

def toJson (policy : Policy) : Json :=
  .object [("dispatch", .string policy.dispatch.name), ("cancellation", .string policy.forwarding.name),
    ("max_depth", Json.ofOption Json.nat policy.maxDepth), ("record_history", .bool policy.recordHistory)]

def text (policy : Policy) : String := policy.toJson.text

def form : Form Policy where
  label := "struct MachineOptions"
  blank := {}
  fields := [
    { name := "dispatch", required := false
      fill := fun policy document =>
        (document.readVariant Dispatch.variants).map ({ policy with dispatch := · }) },
    { name := "cancellation", required := false
      fill := fun policy document =>
        (document.readVariant Forwarding.variants).map ({ policy with forwarding := · }) },
    { name := "max_depth", required := false
      fill := fun policy document =>
        (document.readOption (Document.readNat UInt64.size "usize")).map ({ policy with maxDepth := · }) },
    { name := "record_history", required := false
      fill := fun policy document => document.readBool.map ({ policy with recordHistory := · }) }]

def ofText (text : String) : Except ReadError Policy := readText (form.read .text) text

end Policy

end StateMachine
