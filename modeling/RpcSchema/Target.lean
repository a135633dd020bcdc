import RpcSchema.Target.CsClient
import RpcSchema.Target.GoClient
import RpcSchema.Target.GoServer
import RpcSchema.Target.GoTypes
import RpcSchema.Target.MarkdownDocs
import RpcSchema.Target.RustClient
import RpcSchema.Target.RustServer
import RpcSchema.Target.RustTypes
import RpcSchema.Target.TsClient
import RpcSchema.Target.TsTypes

/-!
Everything that can be generated, with every way to configure it.
-/

namespace RpcSchema

/-- A backend with its configuration. -/
inductive Target
  | goTypes (config : GoTypes)
  | goServer (config : GoServer)
  | goClient (config : GoClient)
  | tsTypes
  | tsClient (config : TsClient)
  | rustTypes (config : RustTypes)
  | rustServer (config : RustServer)
  | rustClient (config : RustClient)
  | csClient (config : CsClient)
  | markdownDocs (config : MarkdownDocs)

namespace Target

def backend : Target → Backend
  | .goTypes config => config.backend
  | .goServer config => config.backend
  | .goClient config => config.backend
  | .tsTypes => TsTypes.backend
  | .tsClient config => config.backend
  | .rustTypes config => config.backend
  | .rustServer config => config.backend
  | .rustClient config => config.backend
  | .csClient config => config.backend
  | .markdownDocs config => config.backend

/-- Whether the generated types get validation, which has the defaults of fields put in. -/
def validates : Target → Bool
  | .goTypes config => config.validate
  | .rustTypes config => config.validate
  | _ => false

end Target

end RpcSchema
