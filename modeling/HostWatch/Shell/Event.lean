namespace HostWatch

inductive LinkEvent where
  | opened
  | message (text : String)
  | closed (code : UInt16) (reason : String)
  | failed (text : String)
  deriving DecidableEq, Repr

end HostWatch
