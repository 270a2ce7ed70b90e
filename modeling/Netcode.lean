import Netcode.Basic
import Netcode.Serializer
import Netcode.Aead
import Netcode.Replay
import Netcode.Address
import Netcode.Packet.Prefix
import Netcode.Packet.Decrypt
import Netcode.Token.Shared
import Netcode.Token.Private
import Netcode.Token.Connect
import Netcode.Packet.Read
import Netcode.Packet.Write
import Netcode.Packet.Receive
import Netcode.Packet.Accept
import Netcode.Packet.Auth
import Netcode.Token.Issue
import Netcode.Token.Challenge
import Netcode.Token.SharedWire
import Netcode.Packet.Safety
import Netcode.Packet.Frame
import Netcode.Client
import Netcode.Token.ReadBack
