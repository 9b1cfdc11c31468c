import RoutingProcessor.Net.Parse

namespace RoutingProcessor.Config

-- What is wrong with a document that is read as a configuration. What was found is
-- named in the words of the document's format.
inductive Complaint where
  | wrongType (found wanted : String)
  | wrongValue (found wanted : String)
  | wrongLength (length : Nat) (wanted : String)
  | unknownVariant (name : String) (known : List String)
  | duplicateField (key : String)
  | invalidAddress
deriving DecidableEq

def Complaint.message : Complaint → String
  | wrongType found wanted => "invalid type: " ++ found ++ ", expected " ++ wanted
  | wrongValue found wanted => "invalid value: " ++ found ++ ", expected " ++ wanted
  | wrongLength length wanted => "invalid length " ++ toString length ++ ", expected " ++ wanted
  | unknownVariant name known =>
    "unknown variant \x60" ++ name ++ "\x60, expected " ++
      String.intercalate " or " (known.map fun word => "\x60" ++ word ++ "\x60")
  | duplicateField key => "duplicate field \x60" ++ key ++ "\x60"
  | invalidAddress => Net.SocketAddress.invalidMessage

end RoutingProcessor.Config
