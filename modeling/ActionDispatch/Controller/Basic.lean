import ActionDispatch.Controller.Error
import ActionDispatch.Request.Basic
import ActionDispatch.Response.Basic

/-!
# Controllers

A controller handles the request of a run by filling in a response, and can be called with
arguments for a value. What it has put into a response stays there when it fails.
-/

set_option autoImplicit false

namespace ActionDispatch

structure Controller where
  name : String
  handle : (method : String) → Request → Response → Response × Option ControllerError
  call : (method : String) → List Value → Except ControllerError Value

namespace Controller

def handling (name : String)
    (handle : (method : String) → Request → Response → Response × Option ControllerError) :
    Controller where
  name := name
  handle := handle
  call method _ := .error (.methodNotFound name method)

def ofMethods (name : String)
    (handlers : Table (Request → Response → Response × Option ControllerError))
    (calls : Table (List Value → Except ControllerError Value)) : Controller where
  name := name
  handle method request response :=
    match handlers.get? method with
    | some handle => handle request response
    | none => (response, some (.methodNotFound name method))
  call method args :=
    match calls.get? method with
    | some call => call args
    | none => .error (.methodNotFound name method)

end Controller

abbrev Registry := Table Controller

def Registry.register (registry : Registry) (controller : Controller) : Registry :=
  Table.insert registry controller.name controller

end ActionDispatch
