/-!
# Kinds of resources
-/

namespace Reclaim

inductive Kind where
  | virtualMachine
  | networkInterface
  | publicIp
  | disk
  | availabilitySet
  | securityGroup
  | virtualNetwork
deriving DecidableEq

namespace Kind

def label : Kind → String
  | virtualMachine => "virtual machine"
  | networkInterface => "network interface"
  | publicIp => "public IP"
  | disk => "managed disk"
  | availabilitySet => "availability set"
  | securityGroup => "network security group"
  | virtualNetwork => "virtual network"

/-- Only availability sets are gone once their delete request is answered. All other deletes go on
behind a handle. -/
def deletesAtOnce : Kind → Bool
  | availabilitySet => true
  | _ => false

end Kind

end Reclaim
