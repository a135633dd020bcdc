/-!
The line that marks a file as generated.
-/

namespace RpcSchema.Code

def generatedMark : String := "Code generated by rpcgen. DO NOT EDIT."

end RpcSchema.Code
