/-
  TunnelBroker.Api.Info — sessions and tunnels as operators see them.
-/

import TunnelBroker.Api.Model
import TunnelBroker.Session.Basic

namespace TunnelBroker.Api

def TunnelInfo.ofTunnel (t : Tunnel) : TunnelInfo :=
  { id := t.id
    spec := t.forward.text
    localHost := t.forward.localHostText
    localPort := t.localPort
    remoteHost := t.forward.remoteHost
    remotePort := t.forward.remotePort
    acl := t.acl.entries
    autoAssigned := t.autoAssigned
    createdAt := t.createdAt
    accepted := t.accepted
    rejected := t.rejected }

def SessionInfo.ofSession (s : Session) : SessionInfo :=
  { id := s.id
    profile := s.profile
    address := s.address
    username := s.user.map (·.username)
    status := if s.isActive then .connected else .lost
    disconnectedAt := s.disconnectedAt
    tunnels := s.tunnels.map TunnelInfo.ofTunnel }

end TunnelBroker.Api
